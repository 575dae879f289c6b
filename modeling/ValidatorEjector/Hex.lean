/-
**Hexadecimal texts, as `ethers` 5.7 documents its helpers for them.**

The functions of this module are what `bigNumberFrom`, `toHexString`, `hexStripZeros` and `hexZeroPad`
of `Ethers` are documented to compute. Only theorems that depend on them refer to them.

* `numeral`, `numeralValue?` — the digits of a natural number in base sixteen, and back.
* `bigNumberFrom`, `toHexString`, `hexStripZeros`, `hexZeroPad` — the documented functions.
* `word` — a number as the 64 digits of an ABI word; `word_inj`.
* `quantity`, `quantity?` — a number as JSON-RPC writes it, and back. `hexStripZeros_toHexString` writes every
  number but zero so, and `parseInt_quantity`, `Number_quantity`, `bigNumberFrom_quantity` read it.
* `integer?_toText` — the text of a number, where it is a numeral.
-/

import ValidatorEjector.Ethers

namespace ValidatorEjector.Hex

open Js

/-- `Number.MAX_SAFE_INTEGER`. -/
def MAX_SAFE : Nat := 0x1fffffffffffff

/-- The digits of a number in base sixteen. -/
def numeral (n : Nat) : List Char := Nat.toDigits 16 n

/-- The number a text of digits denotes. -/
def numeralValue? (radix : Nat) (cs : List Char) : Option Nat :=
  match readDigits radix cs with
  | (d :: ds, []) => some (digitsValue radix (d :: ds))
  | _ => none

/-- The integer a decimal or hexadecimal text denotes. -/
def integer? (s : String) : Option Int :=
  let (negative, cs) := match s.toList with
    | '-' :: cs => (true, cs)
    | cs => (false, cs)
  let value := match cs with
    | '0' :: 'x' :: ds => numeralValue? 16 ds
    | ds => numeralValue? 10 ds
  value.map fun n => if negative then -(n : Int) else n

/-- `BigNumber.from`: a safe integer, or the text of an integer. -/
def bigNumberFrom : BigNumberish → Except Failure Int
  | .number (.int z) =>
    if z.natAbs < MAX_SAFE then .ok z else .error (.error "overflow")
  | .number _ => .error (.error "invalid BigNumber value")
  | .text s =>
    match integer? s with
    | some z => .ok z
    | none => .error (.error "invalid BigNumber string")

theorem bigNumberFrom_text {s : String} {z : Int} (read : integer? s = some z) :
    bigNumberFrom (.text s) = .ok z := by
  simp only [bigNumberFrom, read]

/-- `BigNumber.toHexString`: whole bytes, a zero as `0x00`. -/
def toHexString (z : Int) : String :=
  let digits := numeral z.natAbs
  let whole := if digits.length % 2 = 0 then digits else '0' :: digits
  String.ofList ((if z < 0 then ['-', '0', 'x'] else ['0', 'x']) ++ whole)

/-- `hexStripZeros`: no zero digit is left after `0x`, not even the last one. -/
def hexStripZeros (s : String) : String :=
  String.ofList ('0' :: 'x' :: (s.toList.drop 2).dropWhile (· = '0'))

/-- `hexZeroPad`. -/
def hexZeroPad (s : String) (bytes : Nat) : Except Failure String :=
  let digits := s.toList.drop 2
  if 2 * bytes < digits.length then .error (.error "value out of range")
  else .ok (String.ofList ('0' :: 'x' :: List.replicate (2 * bytes - digits.length) '0' ++ digits))

theorem hexZeroPad_ok (s : String) (bytes : Nat) (fits : (s.toList.drop 2).length ≤ 2 * bytes) :
    ∃ padded, hexZeroPad s bytes = .ok padded :=
  ⟨_, if_neg (Nat.not_lt.mpr fits)⟩

/-- The digits of an ABI word. -/
def word (n : Nat) : String :=
  let digits := numeral n
  String.ofList (List.replicate (64 - digits.length) '0' ++ digits)

/-- A number that is rounded to a safe integer is one. -/
theorem safe_of_ofRat {n : Nat} {z : Int} (rounded : ofRat n = .int z) (safe : z.natAbs < MAX_SAFE) :
    n < MAX_SAFE := by
  by_contra large
  have limit : MAX_SAFE = 2 ^ 53 - 1 := rfl
  by_cases exact : n ≤ 2 ^ 53
  · have same : ofRat n = .int n := by
      have cast := ofRat_intCast (z := n) (by omega)
      exact_mod_cast cast
    rw [same] at rounded
    cases rounded
    omega
  · have := ofRat_large (by omega) rounded
    omega

theorem ofRat_safe {n : Nat} (safe : n < MAX_SAFE) : ofRat n = .int n := by
  have limit : MAX_SAFE = 2 ^ 53 - 1 := rfl
  have cast := ofRat_intCast (z := n) (by omega)
  exact_mod_cast cast

/-- Only safe integers are numbers of `BigNumber`. -/
theorem bigNumberFrom_number {number : JsNumber} {n : Int} :
    bigNumberFrom (.number number) = .ok n ↔ number = .int n ∧ n.natAbs < MAX_SAFE := by
  unfold bigNumberFrom
  cases number with
  | int z =>
    dsimp only
    by_cases small : z.natAbs < MAX_SAFE
    · rw [if_pos small, Except.ok.injEq, JsNumber.int.injEq]
      constructor
      · rintro rfl
        exact ⟨rfl, small⟩
      · exact And.left
    · rw [if_neg small]
      constructor
      · intro same
        cases same
      · rintro ⟨same, fits⟩
        cases same
        exact absurd fits small
  | _ =>
    constructor
    · intro same
      cases same
    · rintro ⟨same, _⟩
      cases same

/-! ### Quantities -/

/-- The JSON-RPC quantity of a number. -/
def quantity (n : Nat) : String := String.ofList ('0' :: 'x' :: numeral n)

theorem toList_quantity (n : Nat) : (quantity n).toList = '0' :: 'x' :: numeral n :=
  String.toList_ofList

theorem numeralValue?_toDigits {radix : Nat} (several : 1 < radix) (most : radix ≤ 16) (n : Nat) :
    numeralValue? radix (Nat.toDigits radix n) = some n := by
  obtain ⟨d, ds, digits, value⟩ := readDigits_toDigits several most n
  unfold numeralValue?
  rw [digits]
  exact congrArg some value

/-- A numeral starts with a digit, and is read to its end. -/
theorem numeralValue?_some {radix : Nat} {cs : List Char} {n : Nat}
    (value : numeralValue? radix cs = some n) :
    ∃ c rest d ds, cs = c :: rest ∧ digitValue? radix c = some d ∧ readDigits radix cs = (d :: ds, []) ∧
      digitsValue radix (d :: ds) = n := by
  unfold numeralValue? at value
  cases cs with
  | nil => cases value
  | cons c rest =>
    cases first : digitValue? radix c with
    | none =>
      rw [readDigits, first] at value
      cases value
    | some d =>
      have read : readDigits radix (c :: rest) =
          (d :: (readDigits radix rest).1, (readDigits radix rest).2) := by
        rw [readDigits, first]
      rw [read] at value
      cases left : (readDigits radix rest).2 with
      | nil =>
        rw [left] at read value
        cases value
        exact ⟨c, rest, d, _, rfl, first, read, rfl⟩
      | cons e es =>
        rw [left] at value
        cases value

theorem integer?_quantity (n : Nat) : integer? (quantity n) = some (n : Int) := by
  unfold integer?
  rw [toList_quantity]
  simp [numeral, numeralValue?_toDigits]

theorem bigNumberFrom_quantity (n : Nat) : bigNumberFrom (.text (quantity n)) = .ok (n : Int) :=
  bigNumberFrom_text (integer?_quantity n)

theorem integer?_toString (n : Nat) : integer? (toString n) = some (n : Int) := by
  have digits : (toString n).toList = Nat.toDigits 10 n := Nat.toList_repr
  have dash : '-' ∉ Nat.toDigits 10 n := not_mem_toDigits rfl
  have cross : 'x' ∉ Nat.toDigits 10 n := not_mem_toDigits rfl
  have value := numeralValue?_toDigits (by decide : 1 < 10) (by decide) n
  unfold integer?
  rw [digits]
  split
  rename_i negative cs sign
  split at sign
  · rename_i starts
    rw [starts] at dash
    exact absurd List.mem_cons_self dash
  · cases sign
    split
    · rename_i starts
      rw [starts] at cross
      exact absurd (List.mem_cons_of_mem _ List.mem_cons_self) cross
    · simp [value]

theorem integer?_toText_eq (n : Nat) :
    integer? (JsNumber.int n).toText = (numeralValue? 10 (naturalText n)).map Int.ofNat := by
  have text : (JsNumber.int n).toText.toList = naturalText n := by
    rw [toList_toText_int, if_neg (by omega), Int.natAbs_natCast]
    rfl
  have dash : '-' ∉ naturalText n := not_mem_naturalText rfl (by decide) n
  have cross : 'x' ∉ naturalText n := not_mem_naturalText rfl (by decide) n
  unfold integer?
  rw [text]
  split
  rename_i negative cs sign
  split at sign
  · rename_i starts
    rw [starts] at dash
    exact absurd List.mem_cons_self dash
  · cases sign
    split
    · rename_i starts
      rw [starts] at cross
      exact absurd (List.mem_cons_of_mem _ List.mem_cons_self) cross
    · cases numeralValue? 10 (naturalText n) with
      | none => rfl
      | some v => rfl

/-- A numeral is a decimal literal. -/
theorem readDecimal_of_numeralValue? {cs : List Char} {n : Nat} (value : numeralValue? 10 cs = some n) :
    readDecimal cs = some ((n : ℚ), []) := by
  obtain ⟨c, rest, d, ds, _, _, digits, same⟩ := numeralValue?_some value
  unfold readDecimal
  rw [digits]
  simp [readExponent, same]

/-- **The text of a number**, where it is a numeral, denotes a number that has the same nearest double. -/
theorem integer?_toText {n : Nat} {z : Int} (read : integer? (JsNumber.int n).toText = some z) :
    ∃ v : Nat, z = v ∧ ofRat v = .int n := by
  rw [integer?_toText_eq] at read
  obtain ⟨v, value, rfl⟩ := Option.map_eq_some_iff.mp read
  obtain ⟨q, rest, back, rounded⟩ := readDecimal_naturalText n
  rw [readDecimal_of_numeralValue? value] at back
  cases back
  rcases rounded with ⟨_, rounded⟩ | ⟨other, _⟩
  · exact ⟨v, rfl, rounded⟩
  · cases other

/-- **No text of a number with more than 21 digits is a numeral.** -/
theorem integer?_toText_lt {n : Nat} {z : Int} (read : integer? (JsNumber.int n).toText = some z) :
    z < 10 ^ 21 := by
  rw [integer?_toText_eq] at read
  obtain ⟨v, value, rfl⟩ := Option.map_eq_some_iff.mp read
  obtain ⟨c, rest, d, ds, _, _, digits, same⟩ := numeralValue?_some value
  have plain (c : Char) (other : digitValue? 10 c = none) : c ∉ naturalText n := by
    intro inside
    obtain ⟨d, digit⟩ := digit_of_readDigits digits c inside
    rw [other] at digit
    cases digit
  have mark := plain '?' rfl
  have exponent := plain 'e' rfl
  have bound : v < 10 ^ 21 := by
    unfold naturalText at mark exponent value
    split_ifs at mark exponent value with small
    · rw [numeralValue?_toDigits (by decide) (by decide)] at value
      cases value
      exact lt_of_le_of_lt small (by norm_num)
    · cases shortest : shortest? n (Nat.toDigits 10 n).length with
      | none =>
        rw [shortest] at mark
        exact absurd (List.mem_append_right _ List.mem_cons_self) mark
      | some printed =>
        obtain ⟨s, zeros⟩ := printed
        rw [shortest] at value exponent
        have back := readDecimal_of_numeralValue? value
        rw [readDecimal_decimalText] at back
        have same : s * 10 ^ zeros = v := by
          have values := (Prod.mk.inj (Option.some.inj back)).1
          exact_mod_cast values
        rw [← same]
        exact decimalText_lt exponent
  exact Int.ofNat_lt.mpr bound

/-- A number up to `2 ^ 53` is printed exactly. -/
theorem integer?_toText_small {n : Nat} (small : n ≤ 2 ^ 53) :
    integer? (JsNumber.int n).toText = some (n : Int) := by
  have text : (JsNumber.int n).toText = toString n := by
    refine String.toList_injective ?_
    rw [toList_toText_int, if_neg (by omega), Int.natAbs_natCast]
    unfold naturalText
    rw [if_pos small]
    exact Nat.toList_repr.symm
  rw [text, integer?_toString]

theorem solid_quantity (n : Nat) : ∀ c ∈ (quantity n).toList, isWhiteSpace c = false := by
  have solid : ∀ d < 16, isWhiteSpace (Nat.digitChar d) = false := by decide
  obtain ⟨d, ds, digits, bounds, _⟩ := toDigits_digits (by decide : 1 < 16) n
  intro c inside
  rw [toList_quantity] at inside
  rcases List.mem_cons.mp inside with rfl | inside
  · rfl
  rcases List.mem_cons.mp inside with rfl | inside
  · rfl
  rw [numeral, digits] at inside
  obtain ⟨e, member, rfl⟩ := List.mem_map.mp inside
  exact solid e (bounds e member)

/-- **A quantity is parsed to the number nearest to it.** -/
theorem parseInt_quantity (n : Nat) : parseInt (quantity n) = ofRat n := by
  obtain ⟨d, ds, digits, value⟩ := readDigits_toDigits (by decide : 1 < 16) le_rfl n
  have start : trimStart (quantity n).toList = '0' :: 'x' :: numeral n := by
    rw [← toList_quantity]
    exact dropWhile_solid (solid_quantity n)
  unfold parseInt
  rw [start]
  simp [readSign, numeral, digits, value, signed]

theorem Number_quantity (n : Nat) : Number (quantity n) = ofRat n := by
  obtain ⟨d, ds, digits, value⟩ := readDigits_toDigits (by decide : 1 < 16) le_rfl n
  have whole : trim (quantity n).toList = '0' :: 'x' :: numeral n := by
    rw [trim_solid (solid_quantity n), toList_quantity]
  unfold Number
  rw [whole]
  show radixLiteral 16 (Nat.toDigits 16 n) = _
  unfold radixLiteral
  rw [digits]
  show ofRat (digitsValue 16 (d :: ds) : ℚ) = _
  rw [value]

/-- The number a quantity of JSON-RPC denotes: its digits follow `0x`, and only zero has a zero in front. -/
def quantity? (text : String) : Option Nat :=
  match text.toList with
  | '0' :: 'x' :: '0' :: _ :: _ => none
  | '0' :: 'x' :: ds => numeralValue? 16 ds
  | _ => none

theorem quantity?_quantity (n : Nat) : quantity? (quantity n) = some n := by
  have value := numeralValue?_toDigits (by decide : 1 < 16) le_rfl n
  unfold quantity?
  rw [toList_quantity]
  by_cases zero : n = 0
  · rw [zero]
    rfl
  · obtain ⟨c, cs, digits, first⟩ := toDigits_cons (by decide : 1 < 16) (Nat.pos_of_ne_zero zero)
    rw [digits] at value
    rw [numeral, digits]
    cases cs with
    | nil => simpa using value
    | cons d ds => simpa [first] using value

theorem quantity?_some {text : String} {n : Nat} (value : quantity? text = some n) :
    ∃ cs, text.toList = '0' :: 'x' :: cs ∧ numeralValue? 16 cs = some n := by
  unfold quantity? at value
  split at value
  · cases value
  · exact ⟨_, by assumption, value⟩
  · cases value

/-- A number that is not zero is written as its quantity. -/
theorem hexStripZeros_toHexString {n : Nat} (positive : 0 < n) :
    hexStripZeros (toHexString n) = quantity n := by
  obtain ⟨c, cs, digits, first⟩ := toDigits_cons (by decide : 1 < 16) positive
  have stripped : (c :: cs).dropWhile (· = '0') = c :: cs :=
    List.dropWhile_cons_of_neg (by simpa using first)
  unfold hexStripZeros toHexString quantity numeral
  have padded : ('0' :: c :: cs).dropWhile (· = '0') = c :: cs :=
    (List.dropWhile_cons_of_pos rfl).trans stripped
  rw [if_neg (by omega), String.toList_ofList, Int.natAbs_natCast, digits]
  split_ifs
  · show String.ofList ('0' :: 'x' :: (c :: cs).dropWhile (· = '0')) = _
    rw [stripped]
  · show String.ofList ('0' :: 'x' :: ('0' :: c :: cs).dropWhile (· = '0')) = _
    rw [padded]

example : hexStripZeros (toHexString 0x855ad2) = "0x855ad2" := by decide

theorem hexStripZeros_zero : hexStripZeros (toHexString 0) = "0x" := by decide

/-- A number is padded to a word. -/
theorem hexZeroPad_toHexString {n : Nat} (bound : n < 2 ^ 256) :
    hexZeroPad (toHexString n) 32 = .ok ("0x" ++ word n) := by
  have length : (numeral n).length ≤ 64 :=
      (Nat.length_toDigits_le_iff (by decide) (by decide)).mpr bound
  have padded : "0x" ++ word n = String.ofList ('0' :: 'x' ::
      (List.replicate (64 - (numeral n).length) '0' ++ numeral n)) := by
    refine String.toList_injective ?_
    simp only [String.toList_append, word, String.toList_ofList]
    rfl
  rw [padded]
  unfold hexZeroPad toHexString
  rw [if_neg (c := (n : Int) < 0) (by omega), String.toList_ofList, Int.natAbs_natCast]
  by_cases whole : (numeral n).length % 2 = 0
  · rw [if_pos whole]
    show (if 64 < (numeral n).length then _ else _) = _
    rw [if_neg (by omega)]
    rfl
  · -- the zero in front is one of those that pad the word
    have more : 64 - (numeral n).length = 64 - ('0' :: numeral n).length + 1 := by
      rw [List.length_cons]
      omega
    rw [if_neg whole]
    show (if 64 < ('0' :: numeral n).length then _ else _) = _
    rw [if_neg (by rw [List.length_cons]; omega), more, List.replicate_succ', List.append_assoc]
    rfl

/-- The bytes of a number are whole. -/
theorem length_toHexString (n : Nat) :
    ((toHexString n).toList.drop 2).length = (numeral n).length + (numeral n).length % 2 := by
  unfold toHexString
  rw [if_neg (c := (n : Int) < 0) (by omega), String.toList_ofList, Int.natAbs_natCast]
  by_cases whole : (numeral n).length % 2 = 0
  · rw [if_pos whole, whole]
    rfl
  · rw [if_neg whole]
    show ('0' :: numeral n).length = _
    rw [List.length_cons]
    omega

/-- What fits into a word is padded to it. -/
theorem hexZeroPad_toHexString_ok {n : Nat} {padded : String} :
    hexZeroPad (toHexString n) 32 = .ok padded ↔ n < 2 ^ 256 ∧ padded = "0x" ++ word n := by
  constructor
  · intro run
    have bound : n < 2 ^ 256 := by
      unfold hexZeroPad at run
      dsimp only at run
      split_ifs at run with long
      rw [length_toHexString] at long
      have short : (numeral n).length ≤ 64 := by omega
      have below : n < 16 ^ 64 := (Nat.length_toDigits_le_iff (by decide) (by decide)).mp short
      exact lt_of_lt_of_eq below (by norm_num)
    rw [hexZeroPad_toHexString bound] at run
    exact ⟨bound, (Except.ok.inj run).symm⟩
  · rintro ⟨bound, rfl⟩
    exact hexZeroPad_toHexString bound

/-- The number that a word denotes. -/
theorem numeralValue?_word (n : Nat) : numeralValue? 16 (word n).toList = some n := by
  obtain ⟨d, ds, digits, bounds, value, _⟩ := toDigits_digits (by decide : 1 < 16) n
  have zeros : word n = String.ofList ((List.replicate
      (64 - (numeral n).length) 0 ++ d :: ds).map Nat.digitChar) := by
    rw [List.map_append, ← digits, List.map_replicate]
    rfl
  have small : ∀ e ∈ List.replicate (64 - (numeral n).length) 0 ++ d :: ds, e < 16 := by
    intro e inside
    rcases List.mem_append.mp inside with inside | inside
    · rw [List.eq_of_mem_replicate inside]
      decide
    · exact bounds e inside
  have leading (k : Nat) : digitsValue 16 (List.replicate k 0 ++ d :: ds) = n := by
    rw [← value]
    unfold digitsValue
    induction k with
    | zero => rfl
    | succ k ih => exact ih
  unfold numeralValue?
  rw [zeros, String.toList_ofList, readDigits_map small le_rfl]
  generalize 64 - (numeral n).length = k at *
  cases k with
  | zero => exact congrArg some (leading 0)
  | succ k => exact congrArg some (leading (k + 1))

/-- A word determines its number. -/
theorem word_inj {m n : Nat} (same : word m = word n) : m = n := by
  have value := numeralValue?_word m
  rw [same, numeralValue?_word n] at value
  exact (Option.some.inj value).symm

/-- Topics of different numbers differ. -/
theorem topic_word_inj {m n : Nat} (same : "0x" ++ word m = "0x" ++ word n) : m = n := by
  have lists := congrArg String.toList same
  rw [String.toList_append, String.toList_append] at lists
  exact word_inj (String.toList_injective (List.append_cancel_left lists))

end ValidatorEjector.Hex

namespace ValidatorEjector

/-- **The helpers of `ethers` do what they are documented to do.** -/
structure Ethers.Documented (ethers : Ethers) : Prop where
  bigNumberFrom : ethers.bigNumberFrom = Hex.bigNumberFrom
  toHexString : ethers.toHexString = Hex.toHexString
  hexStripZeros : ethers.hexStripZeros = Hex.hexStripZeros
  hexZeroPad : ethers.hexZeroPad = Hex.hexZeroPad

end ValidatorEjector
