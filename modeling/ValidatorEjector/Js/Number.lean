/-
**JavaScript numbers.**

A number is a double: NaN, an infinity, or a rational. Integers have a constructor of their own, since
almost every number of the program is one, so a value has one representation (`0` and `-0` are not
told apart).

* `ofRat` — the double nearest to a rational, ties to even.
* `parseInt`, `parseFloat` — the prefix of a text that is a numeral.
* `Number` — the whole of a text as a numeral, `NaN` if it is none.
* `ofRat_intCast` — integers up to `2 ^ 53` are exact; `ofRat_large` — none above is rounded below it;
  `ofRat_rounded` — a double is rounded to itself; `ofRat_between` — an interval is not left.
* `readDigits_toDigits` — the digits of a number are read back.
* `naturalText` — the text of a natural number: the fewest digits that are read back, from `1e21` on with an
  exponent.
* `readDecimal_decimalText` — a decimal text is read back.
* `toText_cons`, `toText_inj` — the text of a number has a dash at its front or nowhere, and determines
  it.
-/

import Mathlib.Data.Int.Log
import Mathlib.Data.List.Basic
import Mathlib.Data.Rat.Floor
import Mathlib.Tactic.Linarith
import Mathlib.Tactic.NormNum
import Mathlib.Tactic.Positivity
import ValidatorEjector.Js.Text

namespace Js

/-- A value of type `number`. -/
inductive JsNumber
  | nan
  | infinity (negative : Bool)
  | int (value : Int)
  /-- A double that is no integer. -/
  | fraction (value : ℚ)
  deriving DecidableEq

/-! ### Rounding -/

/-- The integer nearest to `q`, ties to even. -/
def roundHalfEven (q : ℚ) : Int :=
  let below := ⌊q⌋
  if q - below < 1 / 2 then below
  else if 1 / 2 < q - below then below + 1
  else if below % 2 = 0 then below else below + 1

/-- A rational that is a double, as a number. -/
def exactly (q : ℚ) : JsNumber := if q.den = 1 then .int q.num else .fraction q

/-- The double nearest to `q`: 53 significant bits, exponents from `-1074`, `Infinity` from
`2 ^ 1024`. -/
def ofRat (q : ℚ) : JsNumber :=
  if q.den = 1 ∧ q.num.natAbs ≤ 2 ^ 53 then .int q.num
  else
    let exponent := max (Int.log 2 |q| - 52) (-1074)
    let magnitude : ℚ := roundHalfEven (|q| / 2 ^ exponent) * 2 ^ exponent
    if 2 ^ 1024 ≤ magnitude then .infinity (decide (q < 0))
    else exactly (if q < 0 then -magnitude else magnitude)

/-! ### Numerals -/

/-- The value of a digit of the radix. -/
def digitValue? (radix : Nat) (c : Char) : Option Nat :=
  let value :=
    if '0' ≤ c ∧ c ≤ '9' then some (c.toNat - 48)
    else if 'a' ≤ c ∧ c ≤ 'z' then some (c.toNat - 87)
    else if 'A' ≤ c ∧ c ≤ 'Z' then some (c.toNat - 55)
    else none
  value.filter (· < radix)

/-- The digits a text starts with, and the rest of it. -/
def readDigits (radix : Nat) : List Char → List Nat × List Char
  | [] => ([], [])
  | c :: cs =>
    match digitValue? radix c with
    | some d => let (ds, rest) := readDigits radix cs; (d :: ds, rest)
    | none => ([], c :: cs)

/-- The number the digits denote, most significant first. -/
def digitsValue (radix : Nat) (digits : List Nat) : Nat :=
  digits.foldl (fun value d => value * radix + d) 0

/-- An optional sign: whether it is a minus, and the rest. -/
def readSign : List Char → Bool × List Char
  | '-' :: cs => (true, cs)
  | '+' :: cs => (false, cs)
  | cs => (false, cs)

/-- A rational with the sign read before it. -/
def signed (negative : Bool) (q : ℚ) : ℚ := if negative then -q else q

/-- An exponent part, if the text starts with a whole one. -/
def readExponent : List Char → Int × List Char
  | c :: cs =>
    if c = 'e' ∨ c = 'E' then
      let (negative, rest) := readSign cs
      match readDigits 10 rest with
      | ([], _) => (0, c :: cs)
      | (ds, rest) => (if negative then -(digitsValue 10 ds : Int) else digitsValue 10 ds, rest)
    else (0, c :: cs)
  | [] => (0, [])

/-- The unsigned decimal literal a text starts with: its value, and the rest. -/
def readDecimal (cs : List Char) : Option (ℚ × List Char) :=
  let (whole, rest) := readDigits 10 cs
  let (fractional, rest) :=
    match rest with
    | '.' :: rest' =>
      match whole, readDigits 10 rest' with
      | [], ([], _) => ([], rest)
      | _, (ds, rest) => (ds, rest)
    | _ => ([], rest)
  if whole = [] ∧ fractional = [] then none
  else
    let (exponent, rest) := readExponent rest
    some (digitsValue 10 (whole ++ fractional) * (10 : ℚ) ^ (exponent - fractional.length), rest)

/-- Drop a prefix, if it is there. -/
def dropPrefix? (word : String) (cs : List Char) : Option (List Char) :=
  if word.toList <+: cs then some (cs.drop word.toList.length) else none

/-- `parseInt(s, radix)`, with radix `0` when it is not given. -/
def parseInt (s : String) (radix : Nat := 0) : JsNumber :=
  let (negative, cs) := readSign (trimStart s.toList)
  let (radix, cs) :=
    match radix, cs with
    | 0, '0' :: 'x' :: rest => (16, rest)
    | 0, '0' :: 'X' :: rest => (16, rest)
    | 16, '0' :: 'x' :: rest => (16, rest)
    | 16, '0' :: 'X' :: rest => (16, rest)
    | 0, cs => (10, cs)
    | radix, cs => (radix, cs)
  match readDigits radix cs with
  | ([], _) => .nan
  | (ds, _) => ofRat (signed negative (digitsValue radix ds))

/-- `parseFloat(s)`. -/
def parseFloat (s : String) : JsNumber :=
  let (negative, cs) := readSign (trimStart s.toList)
  match dropPrefix? "Infinity" cs, readDecimal cs with
  | some _, _ => .infinity negative
  | none, some (q, _) => ofRat (signed negative q)
  | none, none => .nan

/-- A radix literal: digits of the radix and nothing else. -/
def radixLiteral (radix : Nat) (cs : List Char) : JsNumber :=
  match readDigits radix cs with
  | ([], _) => .nan
  | (ds, []) => ofRat (digitsValue radix ds)
  | (_, _ :: _) => .nan

/-- `Number(s)`. -/
def Number (s : String) : JsNumber :=
  match trim s.toList with
  | [] => .int 0
  | '0' :: 'x' :: cs => radixLiteral 16 cs
  | '0' :: 'X' :: cs => radixLiteral 16 cs
  | '0' :: 'o' :: cs => radixLiteral 8 cs
  | '0' :: 'O' :: cs => radixLiteral 8 cs
  | '0' :: 'b' :: cs => radixLiteral 2 cs
  | '0' :: 'B' :: cs => radixLiteral 2 cs
  | cs =>
    let (negative, cs) := readSign cs
    if cs = "Infinity".toList then .infinity negative
    else
      match readDecimal cs with
      | some (q, []) => ofRat (signed negative q)
      | _ => .nan

/-! ### Printing -/

/-- The number nearest to `s` with that many zeros after it is `n`. -/
def readsBack (n s zeros : Nat) : Bool := ofRat ((s * 10 ^ zeros : Nat) : ℚ) = .int n

/-- One of the two multiples of a power of ten around `n`, if it is read back as `n`: the nearer, or of two
the even one. -/
def multiple? (n zeros : Nat) : Option Nat :=
  let below := n / 10 ^ zeros
  let twice := 2 * (n % 10 ^ zeros)
  let around :=
    if twice < 10 ^ zeros ∨ twice = 10 ^ zeros ∧ below % 2 = 0 then [below, below + 1]
    else [below + 1, below]
  around.find? fun s => readsBack n s zeros

/-- The fewest digits that are read back as `n`, with the number of zeros after them, at most so many. -/
def shortest? (n : Nat) : Nat → Option (Nat × Nat)
  | 0 => if readsBack n n 0 then some (n, 0) else none
  | zeros + 1 =>
    match multiple? n (zeros + 1) with
    | some s => some (s, zeros + 1)
    | none => shortest? n zeros

/-- The decimal text of `s` with zeros after it: from the 22nd digit on with an exponent. -/
def decimalText (s zeros : Nat) : List Char :=
  let digits := Nat.toDigits 10 s
  if digits.length + zeros ≤ 21 then digits ++ List.replicate zeros '0'
  else
    let exponent := 'e' :: '+' :: Nat.toDigits 10 (digits.length - 1 + zeros)
    match digits with
    | d :: e :: ds => d :: '.' :: e :: ds ++ exponent
    | digits => digits ++ exponent

/-- The text of a natural number. One that is no double, so no number, has a mark. -/
def naturalText (n : Nat) : List Char :=
  if n ≤ 2 ^ 53 then Nat.toDigits 10 n
  else
    match shortest? n (Nat.toDigits 10 n).length with
    | some (s, zeros) => decimalText s zeros
    | none => Nat.toDigits 10 n ++ ['?']

/-! ### Operators -/

namespace JsNumber

/-- The value of a finite number. -/
def toRat : JsNumber → ℚ
  | int z => z
  | fraction q => q
  | _ => 0

/-- `m < n`. -/
def lt : JsNumber → JsNumber → Bool
  | nan, _ => false
  | _, nan => false
  | infinity negative, infinity negative' => negative && !negative'
  | infinity negative, _ => negative
  | _, infinity negative => !negative
  | m, n => m.toRat < n.toRat

/-- `n - k`. -/
def sub (n : JsNumber) (k : Int) : JsNumber :=
  match n with
  | nan => nan
  | infinity negative => infinity negative
  | n => ofRat (n.toRat - k)

/-- `m - n`. -/
def minus : JsNumber → JsNumber → JsNumber
  | nan, _ => nan
  | _, nan => nan
  | infinity negative, infinity negative' => if negative = negative' then nan else infinity negative
  | infinity negative, _ => infinity negative
  | _, infinity negative => infinity !negative
  | m, n => ofRat (m.toRat - n.toRat)

/-- `Math.floor(n)`. -/
def floor : JsNumber → JsNumber
  | fraction q => int ⌊q⌋
  | n => n

/-- `Math.max(m, n)`. -/
def max (m n : JsNumber) : JsNumber :=
  if m = nan ∨ n = nan then nan else if m.lt n then n else m

/-- `n || fallback`. -/
def orElse (n : Option JsNumber) (fallback : JsNumber) : JsNumber :=
  match n with
  | none => fallback
  | some nan => fallback
  | some (int 0) => fallback
  | some n => n

/-- `m === n`. -/
def strictEq (m n : JsNumber) : Bool := m ≠ nan && m = n

/-- `${n}`. A fraction is a quotient here. -/
def toText : JsNumber → String
  | nan => "NaN"
  | infinity negative => if negative then "-Infinity" else "Infinity"
  | int z => String.ofList ((if z < 0 then ['-'] else []) ++ naturalText z.natAbs)
  | fraction q => toString q.num ++ "/" ++ toString q.den

@[simp] theorem lt_int (m n : Int) : (int m).lt (int n) = decide (m < n) := by
  simp [lt, toRat]

theorem strictEq_iff {m n : JsNumber} : m.strictEq n = true ↔ m ≠ nan ∧ m = n := by
  unfold strictEq
  rw [Bool.and_eq_true, decide_eq_true_eq, decide_eq_true_eq]

end JsNumber

/-- Integers up to `2 ^ 53` are exact. -/
theorem ofRat_intCast {z : Int} (small : z.natAbs ≤ 2 ^ 53) : ofRat z = .int z := by
  unfold ofRat
  rw [if_pos ⟨Rat.den_intCast z, by rwa [Rat.num_intCast]⟩, Rat.num_intCast]

theorem JsNumber.sub_int {m k : Int} (small : (m - k).natAbs ≤ 2 ^ 53) :
    (int m).sub k = .int (m - k) := by
  show ofRat ((m : ℚ) - k) = _
  rw [← Int.cast_sub, ofRat_intCast small]

theorem roundHalfEven_ge {q : ℚ} {n : Int} (above : (n : ℚ) ≤ q) : n ≤ roundHalfEven q := by
  have below : n ≤ ⌊q⌋ := Int.le_floor.mpr above
  unfold roundHalfEven
  dsimp only
  split_ifs <;> omega

theorem roundHalfEven_int (z : Int) : roundHalfEven z = z := by
  unfold roundHalfEven
  simp

theorem roundHalfEven_le {q : ℚ} {n : Int} (below : q ≤ n) : roundHalfEven q ≤ n := by
  have floor : ⌊q⌋ ≤ n := by
    have := Int.floor_le_floor below
    rwa [Int.floor_intCast] at this
  unfold roundHalfEven
  dsimp only
  by_cases same : ⌊q⌋ = n
  · -- nothing is left of `q`
    have whole : q = ⌊q⌋ := le_antisymm (by rw [same]; exact below) (Int.floor_le q)
    have none : q - ⌊q⌋ < 1 / 2 := by
      rw [sub_eq_zero.mpr whole]
      norm_num
    rw [if_pos none]
    exact floor
  · split_ifs <;> omega

theorem exactly_int {q : ℚ} {z : Int} (exact : exactly q = .int z) : q = z := by
  unfold exactly at exact
  split_ifs at exact with whole
  cases exact
  exact (Rat.den_eq_one_iff q).mp whole |>.symm

/-- A number from `2 ^ 53` on is rounded to none below. -/
theorem ofRat_large {n : Nat} (large : 2 ^ 53 ≤ n) {z : Int} (rounded : ofRat n = .int z) :
    2 ^ 53 ≤ z := by
  have positive : (0 : ℚ) < n := by
    have : 0 < n := lt_of_lt_of_le (by norm_num) large
    exact_mod_cast this
  have digits : (53 : Int) ≤ Int.log 2 (n : ℚ) := by
    refine (Int.zpow_le_iff_le_log one_lt_two positive).mp ?_
    exact_mod_cast large
  have exponent : max (Int.log 2 (n : ℚ) - 52) (-1074) = Int.log 2 (n : ℚ) - 52 :=
      max_eq_left (by omega)
  unfold ofRat at rounded
  by_cases small : (n : ℚ).den = 1 ∧ (n : ℚ).num.natAbs ≤ 2 ^ 53
  · rw [if_pos small, Rat.num_natCast] at rounded
    cases rounded
    exact_mod_cast large
  · rw [if_neg small] at rounded
    dsimp only at rounded
    rw [abs_of_pos positive, exponent, if_neg (not_lt.mpr positive.le)] at rounded
    by_cases huge : (2 : ℚ) ^ 1024 ≤
        roundHalfEven (n / 2 ^ (Int.log 2 (n : ℚ) - 52)) * 2 ^ (Int.log 2 (n : ℚ) - 52)
    · rw [if_pos huge] at rounded
      cases rounded
    rw [if_neg huge] at rounded
    -- the significand has 53 bits, and the exponent is positive
    have significand : (2 : ℚ) ^ (52 : Int) ≤ n / 2 ^ (Int.log 2 (n : ℚ) - 52) := by
      rw [le_div_iff₀ (zpow_pos two_pos _), ← zpow_add₀ two_ne_zero]
      have same : (52 : Int) + (Int.log 2 (n : ℚ) - 52) = Int.log 2 (n : ℚ) := by ring
      rw [same]
      exact Int.zpow_log_le_self one_lt_two positive
    have rounds : (2 : Int) ^ 52 ≤ roundHalfEven (n / 2 ^ (Int.log 2 (n : ℚ) - 52)) :=
      roundHalfEven_ge (by exact_mod_cast significand)
    have scale : (2 : ℚ) ≤ 2 ^ (Int.log 2 (n : ℚ) - 52) := by
      calc (2 : ℚ) = 2 ^ (1 : Int) := (zpow_one 2).symm
        _ ≤ _ := zpow_le_zpow_right₀ one_le_two (by omega)
    have value := exactly_int rounded
    have bound : ((2 : ℚ) ^ 52) * 2 ≤ z := by
      rw [← value]
      exact mul_le_mul (by exact_mod_cast rounds) scale (by norm_num)
        (by exact_mod_cast le_trans (by norm_num) rounds)
    have : ((2 ^ 53 : Int) : ℚ) ≤ z := by
      calc ((2 ^ 53 : Int) : ℚ) = 2 ^ 52 * 2 := by norm_num
        _ ≤ z := bound
    exact_mod_cast this

/-- **What 53 bits and an exponent hold is a double.** -/
theorem ofRat_significand {n r k : Nat} (value : n = r * 2 ^ k) (bits : r ≤ 2 ^ 53)
    (small : n < 2 ^ 1024) :
    ofRat n = .int n := by
  by_cases exact : n ≤ 2 ^ 53
  · have cast := ofRat_intCast (z := n) (by omega)
    exact_mod_cast cast
  have positive : (0 : ℚ) < n := by exact_mod_cast Nat.zero_lt_of_lt (not_le.mp exact)
  have digits : (53 : Int) ≤ Int.log 2 (n : ℚ) := by
    refine (Int.zpow_le_iff_le_log one_lt_two positive).mp ?_
    exact_mod_cast (not_le.mp exact).le
  have log : Int.log 2 (n : ℚ) = Nat.log 2 n := Int.log_natCast 2 n
  obtain ⟨j, exponent⟩ : ∃ j : Nat, Nat.log 2 n = 52 + j := Nat.exists_eq_add_of_le (by omega)
  have lower : 2 ^ (52 + j) ≤ n := by
    rw [← exponent]
    exact Nat.pow_log_le_self 2 (by omega)
  -- the exponent of the double divides the number
  have divides : 2 ^ j ∣ n := by
    have bound : 2 ^ (52 + j) ≤ 2 ^ (53 + k) := by
      calc 2 ^ (52 + j) ≤ r * 2 ^ k := by rwa [← value]
        _ ≤ 2 ^ 53 * 2 ^ k := Nat.mul_le_mul_right _ bits
        _ = 2 ^ (53 + k) := (pow_add 2 53 k).symm
    have close : 52 + j ≤ 53 + k := (Nat.pow_le_pow_iff_right (by decide)).mp bound
    rcases Nat.lt_or_ge k j with above | within
    · have top : j = k + 1 := by omega
      have full : n = 2 ^ (53 + k) := by
        refine le_antisymm ?_ ?_
        · rw [value, pow_add]
          exact Nat.mul_le_mul_right _ bits
        · rw [show 53 + k = 52 + j by omega]
          exact lower
      rw [full]
      exact pow_dvd_pow 2 (by omega)
    · rw [value]
      exact Dvd.dvd.mul_left (pow_dvd_pow 2 within) r
  obtain ⟨m, rfl⟩ := divides
  have quotient : ((2 ^ j * m : Nat) : ℚ) / 2 ^ j = m := by
    rw [Nat.cast_mul, Nat.cast_pow, Nat.cast_ofNat, mul_div_cancel_left₀]
    positivity
  have shift : max (Int.log 2 ((2 ^ j * m : Nat) : ℚ) - 52) (-1074) = (j : Int) := by
    rw [log, exponent]
    omega
  have rounds : roundHalfEven (m : ℚ) = m := roundHalfEven_int m
  have fits : ¬ (2 : ℚ) ^ 1024 ≤ ((2 ^ j * m : Nat) : ℚ) := by
    rw [not_le]
    exact_mod_cast small
  unfold ofRat
  rw [if_neg (by rw [Rat.num_natCast]; exact fun both => exact both.2)]
  dsimp only
  rw [abs_of_pos positive, shift, zpow_natCast, quotient, rounds, Int.cast_natCast]
  have product : (m : ℚ) * 2 ^ j = ((2 ^ j * m : Nat) : ℚ) := by
    push_cast
    ring
  rw [product, if_neg fits, if_neg (not_lt.mpr positive.le)]
  unfold exactly
  rw [if_pos (Rat.den_natCast _), Rat.num_natCast]

/-- **Rounding a double changes nothing.** -/
theorem ofRat_rounded {q : ℚ} {n : Nat} (rounded : ofRat q = .int n) : ofRat n = .int n := by
  by_cases exact : n ≤ 2 ^ 53
  · have cast := ofRat_intCast (z := n) (by omega)
    exact_mod_cast cast
  unfold ofRat at rounded
  by_cases small : q.den = 1 ∧ q.num.natAbs ≤ 2 ^ 53
  · rw [if_pos small] at rounded
    have same := JsNumber.int.inj rounded
    have bound := small.2
    omega
  rw [if_neg small] at rounded
  dsimp only at rounded
  generalize exponent : max (Int.log 2 |q| - 52) (-1074) = e at rounded
  generalize significand : roundHalfEven (|q| / 2 ^ e) = r at rounded
  by_cases huge : (2 : ℚ) ^ 1024 ≤ r * 2 ^ e
  · rw [if_pos huge] at rounded
    cases rounded
  rw [if_neg huge] at rounded
  have value := exactly_int rounded
  have scale : (0 : ℚ) < 2 ^ e := zpow_pos two_pos e
  have nonneg : 0 ≤ r := by
    rw [← significand]
    exact roundHalfEven_ge (by rw [Int.cast_zero]; positivity)
  have bits : r ≤ 2 ^ 53 := by
    rw [← significand]
    refine roundHalfEven_le ?_
    rw [div_le_iff₀ scale]
    have upper := Int.lt_zpow_succ_log_self one_lt_two |q|
    calc |q| ≤ 2 ^ (Int.log 2 |q| + 1) := upper.le
      _ ≤ 2 ^ (53 + e) := zpow_le_zpow_right₀ one_le_two (by omega)
      _ = ((2 ^ 53 : Int) : ℚ) * 2 ^ e := by
        rw [zpow_add₀ two_ne_zero]
        norm_num
  have magnitude : (r : ℚ) * 2 ^ e = n := by
    split_ifs at value with sign
    · have above : (0 : ℚ) ≤ r * 2 ^ e := mul_nonneg (by exact_mod_cast nonneg) scale.le
      have none : (n : ℚ) ≤ 0 := by
        rw [← Int.cast_natCast, ← value]
        linarith
      exact absurd (le_trans (by exact_mod_cast none) (Nat.zero_le _)) exact
    · rw [value, Int.cast_natCast]
  lift r to Nat using nonneg
  rw [magnitude, not_le] at huge
  rw [Int.cast_natCast] at magnitude
  have whole : 0 ≤ e := by
    by_contra negative
    have below : (r : ℚ) * 2 ^ e ≤ 2 ^ 53 * 1 :=
      mul_le_mul (by exact_mod_cast bits) (zpow_le_one_of_nonpos₀ one_le_two (by omega)) scale.le
        (by norm_num)
    rw [magnitude, mul_one] at below
    exact exact (by exact_mod_cast below)
  lift e to Nat using whole
  rw [zpow_natCast] at magnitude
  exact ofRat_significand (by exact_mod_cast magnitude.symm) (by exact_mod_cast bits)
    (by exact_mod_cast huge)

/-- An integer is rounded to an integer, or to an infinity. -/
theorem ofRat_whole (z : Int) : (∃ y, ofRat z = .int y) ∨ ∃ negative, ofRat z = .infinity negative := by
  unfold ofRat
  by_cases small : (z : ℚ).den = 1 ∧ (z : ℚ).num.natAbs ≤ 2 ^ 53
  · exact .inl ⟨_, if_pos small⟩
  have large : 2 ^ 53 < z.natAbs := by
    rw [Rat.num_intCast, Rat.den_intCast] at small
    simpa using small
  have magnitude : |(z : ℚ)| = (z.natAbs : ℚ) := by rw [Nat.cast_natAbs, Int.cast_abs]
  have positive : (0 : ℚ) < |(z : ℚ)| := by
    rw [magnitude]
    exact_mod_cast Nat.zero_lt_of_lt large
  have digits : (53 : Int) ≤ Int.log 2 |(z : ℚ)| := by
    refine (Int.zpow_le_iff_le_log one_lt_two positive).mp ?_
    rw [magnitude]
    exact_mod_cast large.le
  rw [if_neg small]
  dsimp only
  rw [max_eq_left (by omega)]
  split_ifs with huge sign
  · exact .inr ⟨_, rfl⟩
  all_goals
    -- the exponent is positive, so the magnitude is an integer
    obtain ⟨k, exponent⟩ := Int.eq_ofNat_of_zero_le (show 0 ≤ Int.log 2 |(z : ℚ)| - 52 by omega)
    have whole : (roundHalfEven (|(z : ℚ)| / 2 ^ k) : ℚ) * 2 ^ k
        = ((roundHalfEven (|(z : ℚ)| / 2 ^ k) * 2 ^ k : Int) : ℚ) := by push_cast; rfl
    rw [exponent, zpow_natCast, whole]
    unfold exactly
  · rw [← Int.cast_neg, if_pos (Rat.den_intCast _)]
    exact .inl ⟨_, rfl⟩
  · rw [if_pos (Rat.den_intCast _)]
    exact .inl ⟨_, rfl⟩

/-- A finite number from `low` to `high`. -/
def JsNumber.Between (low high : ℚ) (n : JsNumber) : Prop := ∃ q, n = exactly q ∧ low ≤ q ∧ q ≤ high

theorem JsNumber.toRat_exactly (q : ℚ) : (exactly q).toRat = q := by
  unfold exactly
  by_cases whole : q.den = 1
  · rw [if_pos whole]
    exact (Rat.den_eq_one_iff q).mp whole
  · rw [if_neg whole]
    rfl

/-- Rounding does not leave an interval whose bounds are doubles. -/
theorem ofRat_between {q : ℚ} {n : Nat} (low : 0 ≤ q) (high : q ≤ n) (small : n < 2 ^ 53) :
    (ofRat q).Between 0 n := by
  unfold ofRat
  by_cases exact : q.den = 1 ∧ q.num.natAbs ≤ 2 ^ 53
  · refine ⟨q, ?_, low, high⟩
    rw [if_pos exact]
    exact (if_pos exact.1).symm
  have positive : 0 < q := by
    refine lt_of_le_of_ne low fun zero => exact ?_
    rw [← zero]
    exact ⟨rfl, Nat.zero_le _⟩
  have top : (n : ℚ) < 2 ^ 53 := by exact_mod_cast small
  have digits : Int.log 2 q < 53 := by
    refine (Int.lt_zpow_iff_log_lt one_lt_two positive).mp ?_
    exact lt_of_le_of_lt high (by exact_mod_cast small)
  -- the exponent is not positive, so the bound is a whole number of units
  obtain ⟨k, exponent⟩ : ∃ k : Nat, max (Int.log 2 q - 52) (-1074) = -(k : Int) :=
    ⟨(-max (Int.log 2 q - 52) (-1074)).toNat, by omega⟩
  have unit : (0 : ℚ) < 2 ^ k := by positivity
  let units := roundHalfEven (q * 2 ^ k)
  have least : 0 ≤ units := roundHalfEven_ge (by rw [Int.cast_zero]; positivity)
  have most : units ≤ (n * 2 ^ k : Nat) := by
    refine roundHalfEven_le ?_
    push_cast
    exact mul_le_mul_of_nonneg_right high unit.le
  have within : (units : ℚ) / 2 ^ k ≤ n := by
    rw [div_le_iff₀ unit]
    exact_mod_cast most
  rw [if_neg exact]
  dsimp only
  rw [abs_of_pos positive, exponent, zpow_neg, zpow_natCast, div_inv_eq_mul, ← div_eq_mul_inv,
    if_neg (not_lt.mpr low), if_neg]
  · exact ⟨_, rfl, div_nonneg (Int.cast_nonneg least) unit.le, within⟩
  · rw [not_le]
    calc (units : ℚ) / 2 ^ k ≤ n := within
      _ < 2 ^ 53 := top
      _ < 2 ^ 1024 := pow_lt_pow_right₀ one_lt_two (by decide)

/-! ### Digits -/

section Digits

variable {radix : Nat}

theorem digitValue?_digitChar {d : Nat} (small : d < radix) (most : radix ≤ 16) :
    digitValue? radix d.digitChar = some d := by
  have hex : ∀ d < 16, digitValue? 16 d.digitChar = some d := by decide
  have value := hex d (lt_of_lt_of_le small most)
  unfold digitValue? at value ⊢
  obtain ⟨found, _⟩ := Option.filter_eq_some_iff.mp value
  rw [found]
  exact Option.filter_eq_some_iff.mpr ⟨rfl, decide_eq_true small⟩

theorem digitValue?_range {c : Char} {d : Nat} (digit : digitValue? radix c = some d) :
    48 ≤ c.toNat ∧ c.toNat ≤ 122 := by
  have bound (a : Char) : a ≤ c ↔ a.toNat ≤ c.toNat := by
    rw [Char.le_def, UInt32.le_iff_toNat_le]
    rfl
  have bound' (a : Char) : c ≤ a ↔ c.toNat ≤ a.toNat := by
    rw [Char.le_def, UInt32.le_iff_toNat_le]
    rfl
  have zero : '0'.toNat = 48 := rfl
  have nine : '9'.toNat = 57 := rfl
  have small : 'a'.toNat = 97 ∧ 'z'.toNat = 122 := ⟨rfl, rfl⟩
  have capital : 'A'.toNat = 65 ∧ 'Z'.toNat = 90 := ⟨rfl, rfl⟩
  unfold digitValue? at digit
  simp only [bound, bound', zero, nine, small, capital] at digit
  split_ifs at digit
  · omega
  · omega
  · omega
  · cases digit

/-- A digit is no white space. -/
theorem solid_of_digit {c : Char} {d : Nat} (digit : digitValue? radix c = some d) :
    isWhiteSpace c = false := by
  have range := digitValue?_range digit
  unfold isWhiteSpace
  simp only [List.mem_cons, List.not_mem_nil, Bool.or_eq_false_iff, decide_eq_false_iff_not,
    Bool.and_eq_false_iff, or_false, not_or]
  refine ⟨⟨⟨?_, ?_, ?_, ?_, ?_, ?_, ?_, ?_, ?_⟩, ?_⟩, ?_⟩ <;> omega

theorem readDigits_append {ds : List Nat} (small : ∀ d ∈ ds, d < radix) (most : radix ≤ 16)
    (rest : List Char) : readDigits radix (ds.map Nat.digitChar ++ rest) =
      (ds ++ (readDigits radix rest).1, (readDigits radix rest).2) := by
  induction ds with
  | nil => rfl
  | cons d ds ih =>
    rw [List.map_cons, List.cons_append, readDigits,
      digitValue?_digitChar (small d List.mem_cons_self) most]
    dsimp only
    rw [ih fun e inside => small e (List.mem_cons_of_mem d inside)]
    rfl

theorem readDigits_map {ds : List Nat} (small : ∀ d ∈ ds, d < radix) (most : radix ≤ 16) :
    readDigits radix (ds.map Nat.digitChar) = (ds, []) := by
  have read := readDigits_append small most []
  rwa [List.append_nil, readDigits, List.append_nil] at read

/-- A numeral has digits only. -/
theorem digit_of_readDigits {radix : Nat} : ∀ {cs : List Char} {ds : List Nat}, readDigits radix cs =
    (ds, []) →
    ∀ c ∈ cs, ∃ d, digitValue? radix c = some d
  | [], _, _, _, inside => by cases inside
  | c :: cs, ds, read, e, inside => by
    cases first : digitValue? radix c with
    | none =>
      rw [readDigits, first] at read
      cases read
    | some d =>
      have whole : (d :: (readDigits radix cs).1, (readDigits radix cs).2) = (ds, []) := by
        rw [← read, readDigits, first]
      have others : readDigits radix cs = ((readDigits radix cs).1, []) :=
        Prod.ext rfl (Prod.mk.inj whole).2
      rcases List.mem_cons.mp inside with rfl | inside
      · exact ⟨d, first⟩
      · exact digit_of_readDigits others e inside

theorem digitsValue_concat (ds : List Nat) (d : Nat) :
    digitsValue radix (ds ++ [d]) = digitsValue radix ds * radix + d := by
  unfold digitsValue
  rw [List.foldl_append]
  rfl

/-- The digits of a number: the first is not zero, unless the number is. -/
theorem toDigits_digits (several : 1 < radix) (n : Nat) : ∃ d ds, Nat.toDigits radix n
      = (d :: ds).map Nat.digitChar ∧ (∀ e ∈ d :: ds, e < radix) ∧ digitsValue radix (d :: ds) = n ∧
      (d = 0 → n = 0) := by
  induction n using Nat.strongRecOn with
  | ind n ih =>
    by_cases small : n < radix
    · refine ⟨n, [], Nat.toDigits_of_lt_base small, ?_, ?_, id⟩
      · simpa using small
      · simp [digitsValue]
    · have positive : 0 < n / radix := Nat.div_pos (not_lt.mp small) (by omega)
      obtain ⟨d, ds, digits, bounds, value, first⟩ := ih (n / radix)
        (Nat.div_lt_self (by omega) several)
      have last : n % radix < radix := Nat.mod_lt n (by omega)
      refine ⟨d, ds ++ [n % radix], ?_, ?_, ?_, fun zero => absurd (first zero) (by omega)⟩
      · rw [Nat.toDigits_of_base_le several (not_lt.mp small), digits, ← List.cons_append,
          List.map_append]
        rfl
      · intro e inside
        rw [← List.cons_append, List.mem_append, List.mem_singleton] at inside
        rcases inside with inside | rfl
        · exact bounds e inside
        · exact last
      · rw [← List.cons_append, digitsValue_concat, value, Nat.div_add_mod']

/-- **The digits of a number are read back.** -/
theorem readDigits_toDigits (several : 1 < radix) (most : radix ≤ 16) (n : Nat) :
    ∃ d ds, readDigits radix (Nat.toDigits radix n) = (d :: ds, []) ∧
      digitsValue radix (d :: ds) = n := by
  obtain ⟨d, ds, digits, bounds, value, _⟩ := toDigits_digits several n
  exact ⟨d, ds, by rw [digits, readDigits_map bounds most], value⟩

/-- The digits of a positive number do not start with a zero. -/
theorem toDigits_cons (several : 1 < radix) {n : Nat} (positive : 0 < n) :
    ∃ c cs, Nat.toDigits radix n = c :: cs ∧ c ≠ '0' := by
  obtain ⟨d, ds, digits, _, _, first⟩ := toDigits_digits several n
  refine ⟨d.digitChar, ds.map Nat.digitChar, digits, fun zero => ?_⟩
  have := first (Nat.digitChar_eq_zero.mp zero)
  omega

end Digits

/-! ### Texts of numbers -/

section Texts

open JsNumber

/-- The decimal digits of a natural number determine it. -/
theorem toDigits_inj {m n : Nat} (same : Nat.toDigits 10 m = Nat.toDigits 10 n) : m = n := by
  have back : Nat.ofDigitChars 10 (Nat.toDigits 10 m) 0 = Nat.ofDigitChars 10 (Nat.toDigits 10 n) 0 := by
    rw [same]
  rwa [Nat.ofDigitChars_toDigits (by decide) (by decide),
    Nat.ofDigitChars_toDigits (by decide) (by decide)] at back

theorem not_mem_toDigits {c : Char} (other : c.isDigit = false) {n : Nat} : c ∉ Nat.toDigits 10 n := by
  intro inside
  rw [Nat.isDigit_of_mem_toDigits (by decide) (by decide) inside] at other
  cases other

/-- The text of an integer: its digits, after a minus sign if it is negative. -/
theorem toList_toString (z : Int) : (toString z).toList =
    if 0 ≤ z then Nat.toDigits 10 z.toNat else '-' :: Nat.toDigits 10 (-z).toNat := by
  rw [Int.toString_eq_repr, Int.repr_eq_if]
  by_cases sign : 0 ≤ z
  · rw [if_pos sign, if_pos sign, Nat.toList_repr]
  · rw [if_neg sign, if_neg sign, String.toList_append, Nat.toList_repr]
    rfl

theorem not_mem_toString {c : Char} (digit : c.isDigit = false) (dash : c ≠ '-') (z : Int) :
    c ∉ (toString z).toList := by
  rw [toList_toString]
  by_cases sign : 0 ≤ z
  · rw [if_pos sign]
    exact not_mem_toDigits digit
  · rw [if_neg sign, List.mem_cons, not_or]
    exact ⟨dash, not_mem_toDigits digit⟩

theorem toString_inj {m n : Int} (same : toString m = toString n) : m = n := by
  have lists := congrArg String.toList same
  rw [toList_toString, toList_toString] at lists
  by_cases first : 0 ≤ m <;> by_cases second : 0 ≤ n
  · rw [if_pos first, if_pos second] at lists
    have := toDigits_inj lists
    omega
  · rw [if_pos first, if_neg second] at lists
    have dash : '-' ∈ Nat.toDigits 10 m.toNat := lists ▸ List.mem_cons_self
    exact absurd dash (not_mem_toDigits rfl)
  · rw [if_neg first, if_pos second] at lists
    have dash : '-' ∈ Nat.toDigits 10 n.toNat := lists ▸ List.mem_cons_self
    exact absurd dash (not_mem_toDigits rfl)
  · rw [if_neg first, if_neg second] at lists
    have := toDigits_inj (List.cons.inj lists).2
    omega

theorem toList_toText_fraction (q : ℚ) : (toText (fraction q)).toList
    = (toString q.num).toList ++ '/' :: Nat.toDigits 10 q.den := by
  show (toString q.num ++ "/" ++ toString q.den).toList = _
  rw [String.toList_append, String.toList_append, Nat.toString_eq_repr, Nat.toList_repr,
    List.append_assoc]
  rfl

/-! ### Decimal texts -/

theorem digitsValue_zeros (ds : List Nat) (zeros : Nat) :
    digitsValue 10 (ds ++ List.replicate zeros 0) = digitsValue 10 ds * 10 ^ zeros := by
  induction zeros with
  | zero => simp
  | succ zeros ih =>
    rw [List.replicate_succ', ← List.append_assoc, digitsValue_concat, ih, Nat.pow_succ]
    ring

/-- An exponent part is read to its end. -/
theorem readExponent_toDigits (k : Nat) :
    readExponent ('e' :: '+' :: Nat.toDigits 10 k) = ((k : Int), []) := by
  obtain ⟨d, ds, digits, value⟩ := readDigits_toDigits (by decide : 1 < 10) (by decide) k
  unfold readExponent
  simp [readSign, digits, value]

/-- **A decimal text is read back.** -/
theorem readDecimal_decimalText (s zeros : Nat) :
    readDecimal (decimalText s zeros) = some (((s * 10 ^ zeros : Nat) : ℚ), []) := by
  obtain ⟨d, ds, digits, bounds, value, _⟩ := toDigits_digits (by decide : 1 < 10) s
  have length : (Nat.toDigits 10 s).length = ds.length + 1 := by
    rw [digits, List.length_map, List.length_cons]
  unfold decimalText
  dsimp only
  rw [length, Nat.add_sub_cancel]
  by_cases plain : ds.length + 1 + zeros ≤ 21
  · have padded : Nat.toDigits 10 s ++ List.replicate zeros '0' =
        (d :: ds ++ List.replicate zeros 0).map Nat.digitChar := by
      rw [List.map_append, ← digits, List.map_replicate]
      rfl
    have small : ∀ e ∈ d :: ds ++ List.replicate zeros 0, e < 10 := by
      intro e inside
      rcases List.mem_append.mp inside with inside | inside
      · exact bounds e inside
      · rw [List.eq_of_mem_replicate inside]
        decide
    rw [if_pos plain, padded]
    unfold readDecimal
    rw [readDigits_map small (by decide)]
    have number := digitsValue_zeros (d :: ds) zeros
    rw [value] at number
    simp only [List.append_nil, readExponent, number]
    simp
  · have stop (rest : List Char) : readDigits 10 ('e' :: rest) = ([], 'e' :: rest) := rfl
    have point (rest : List Char) : readDigits 10 ('.' :: rest) = ([], '.' :: rest) := rfl
    rw [if_neg plain, digits]
    cases ds with
    | nil =>
      show readDecimal ([d].map Nat.digitChar ++ 'e' :: '+' :: Nat.toDigits 10 (0 + zeros)) = _
      unfold readDecimal
      rw [readDigits_append bounds (by decide), stop]
      simp [readExponent_toDigits, value]
    | cons e es =>
      have first : ∀ x ∈ [d], x < 10 := fun x inside => bounds x (by simp_all)
      have others : ∀ x ∈ e :: es, x < 10 := fun x inside => bounds x (List.mem_cons_of_mem d inside)
      have fractional := readDigits_append others (by decide)
        ('e' :: '+' :: Nat.toDigits 10 ((e :: es).length + zeros))
      show readDecimal ([d].map Nat.digitChar ++ '.' :: ((e :: es).map Nat.digitChar ++
        'e' :: '+' :: Nat.toDigits 10 ((e :: es).length + zeros))) = _
      generalize (e :: es).map Nat.digitChar ++ 'e' :: '+' :: Nat.toDigits 10
        ((e :: es).length + zeros) = fraction
        at fractional ⊢
      rw [stop, List.append_nil] at fractional
      unfold readDecimal
      rw [readDigits_append first (by decide), point]
      simp [fractional, readExponent_toDigits, value]

theorem decimalText_zero {n : Nat} (small : n < 10 ^ 21) : decimalText n 0 = Nat.toDigits 10 n := by
  have length : (Nat.toDigits 10 n).length ≤ 21 :=
      (Nat.length_toDigits_le_iff (by decide) (by decide)).mpr small
  unfold decimalText
  dsimp only
  rw [Nat.add_zero, if_pos length, List.replicate_zero, List.append_nil]

/-- Without an exponent there are at most 21 digits. -/
theorem decimalText_lt {s zeros : Nat} (plain : 'e' ∉ decimalText s zeros) :
    s * 10 ^ zeros < 10 ^ 21 := by
  unfold decimalText at plain
  dsimp only at plain
  split_ifs at plain with short
  · have digits : s < 10 ^ (Nat.toDigits 10 s).length :=
      (Nat.length_toDigits_le_iff (by decide)
        (List.length_pos_of_ne_nil Nat.toDigits_ne_nil)).mp le_rfl
    calc s * 10 ^ zeros < 10 ^ (Nat.toDigits 10 s).length * 10 ^ zeros :=
          Nat.mul_lt_mul_of_pos_right digits (by positivity)
      _ = 10 ^ ((Nat.toDigits 10 s).length + zeros) := (pow_add _ _ _).symm
      _ ≤ 10 ^ 21 := Nat.pow_le_pow_right (by decide) short
  · split at plain
    · simp at plain
    · simp at plain

theorem not_mem_decimalText {c : Char} (digit : c.isDigit = false) (other : c ∉ ['.', 'e', '+'])
    (s zeros : Nat) :
    c ∉ decimalText s zeros := by
  have free (n : Nat) : c ∉ Nat.toDigits 10 n := not_mem_toDigits digit
  have zero : c ∉ List.replicate zeros '0' := by
    intro inside
    rw [List.eq_of_mem_replicate inside] at digit
    cases digit
  have mantissa := free s
  simp only [List.mem_cons, List.not_mem_nil, not_or, or_false] at other
  unfold decimalText
  dsimp only
  split
  · rw [List.mem_append, not_or]
    exact ⟨mantissa, zero⟩
  · split <;> simp_all

/-- The digits that are printed are read back. -/
theorem shortest?_readsBack {n s zeros : Nat} : ∀ {most : Nat}, shortest? n most = some (s, zeros) →
    ofRat ((s * 10 ^ zeros : Nat) : ℚ) = .int n
  | 0, found => by
    unfold shortest? at found
    split_ifs at found with back
    cases found
    exact of_decide_eq_true back
  | most + 1, found => by
    unfold shortest? at found
    cases multiple : multiple? n (most + 1) with
    | some digits =>
      rw [multiple] at found
      cases found
      have back := List.find?_some multiple
      exact of_decide_eq_true back
    | none =>
      rw [multiple] at found
      exact shortest?_readsBack found

/-- What is read back from the text of a natural number. -/
theorem readDecimal_naturalText (n : Nat) : ∃ q rest, readDecimal (naturalText n) = some (q, rest) ∧
    (rest = [] ∧ ofRat q = .int n ∨ rest = ['?'] ∧ q = n) := by
  unfold naturalText
  by_cases small : n ≤ 2 ^ 53
  · have exact : ofRat n = .int n := by
      have cast := ofRat_intCast (z := n) (by omega)
      exact_mod_cast cast
    refine ⟨n, [], ?_, .inl ⟨rfl, exact⟩⟩
    rw [if_pos small, ← decimalText_zero (lt_of_le_of_lt small (by norm_num)), readDecimal_decimalText]
    simp
  rw [if_neg small]
  cases shortest : shortest? n (Nat.toDigits 10 n).length with
  | some digits =>
    obtain ⟨s, zeros⟩ := digits
    exact ⟨_, [], readDecimal_decimalText s zeros, .inl ⟨rfl, shortest?_readsBack shortest⟩⟩
  | none =>
    obtain ⟨d, ds, digits, bounds, value, _⟩ := toDigits_digits (by decide : 1 < 10) n
    have stop : readDigits 10 ['?'] = ([], ['?']) := rfl
    refine ⟨n, ['?'], ?_, .inr ⟨rfl, rfl⟩⟩
    dsimp only
    unfold readDecimal
    rw [digits, readDigits_append bounds (by decide), stop]
    simp [readExponent, value]

theorem naturalText_inj {m n : Nat} (same : naturalText m = naturalText n) : m = n := by
  obtain ⟨p, rest, first, whole⟩ := readDecimal_naturalText m
  obtain ⟨q, rest', second, whole'⟩ := readDecimal_naturalText n
  rw [same, second] at first
  cases first
  rcases whole with ⟨rfl, back⟩ | ⟨rfl, rfl⟩
  · rcases whole' with ⟨_, back'⟩ | ⟨other, _⟩
    · rw [back, JsNumber.int.injEq] at back'
      exact_mod_cast back'
    · cases other
  · rcases whole' with ⟨other, _⟩ | ⟨_, value⟩
    · cases other
    · exact_mod_cast value

theorem naturalText_ne_nil (n : Nat) : naturalText n ≠ [] := by
  obtain ⟨q, rest, read, _⟩ := readDecimal_naturalText n
  intro empty
  rw [empty] at read
  cases read

theorem not_mem_naturalText {c : Char} (digit : c.isDigit = false) (other : c ∉ ['.', 'e', '+', '?'])
    (n : Nat) :
    c ∉ naturalText n := by
  have free : c ∉ Nat.toDigits 10 n := not_mem_toDigits digit
  simp only [List.mem_cons, List.not_mem_nil, not_or, or_false] at other
  unfold naturalText
  split
  · exact free
  split
  · exact not_mem_decimalText digit (by simp [other]) _ _
  · simp [free, other]

theorem toList_toText_int (z : Int) : (toText (int z)).toList =
    (if z < 0 then ['-'] else []) ++ naturalText z.natAbs := String.toList_ofList

theorem not_mem_toText_int {c : Char} (digit : c.isDigit = false)
    (other : c ∉ ['-', '.', 'e', '+', '?']) (z : Int) : c ∉ (toText (int z)).toList := by
  rw [List.mem_cons, not_or] at other
  have free := not_mem_naturalText digit other.2 z.natAbs
  rw [toList_toText_int]
  split_ifs
  · simp [other.1, free]
  · simpa using free

theorem toText_int_inj {m n : Int} (same : toText (int m) = toText (int n)) : m = n := by
  have free (z : Int) : '-' ∉ naturalText z.natAbs := not_mem_naturalText rfl (by decide) _
  have lists := congrArg String.toList same
  rw [toList_toText_int, toList_toText_int] at lists
  by_cases first : m < 0 <;> by_cases second : n < 0
  · rw [if_pos first, if_pos second] at lists
    have := naturalText_inj (List.cons.inj lists).2
    omega
  · rw [if_pos first, if_neg second] at lists
    have dash : '-' ∈ naturalText n.natAbs := by
      rw [← List.nil_append (naturalText n.natAbs), ← lists]
      exact List.mem_cons_self
    exact absurd dash (free n)
  · rw [if_neg first, if_pos second] at lists
    have dash : '-' ∈ naturalText m.natAbs := by
      rw [← List.nil_append (naturalText m.natAbs), lists]
      exact List.mem_cons_self
    exact absurd dash (free m)
  · rw [if_neg first, if_neg second] at lists
    have := naturalText_inj lists
    omega

/-- A dash is at the front of the text of a number, or nowhere. -/
theorem toText_cons (n : JsNumber) : ∃ c cs, n.toText.toList = c :: cs ∧ '-' ∉ cs := by
  cases n with
  | nan => exact ⟨'N', ['a', 'N'], rfl, by decide⟩
  | infinity negative =>
    cases negative with
    | true => exact ⟨'-', "Infinity".toList, rfl, by decide⟩
    | false => exact ⟨'I', "nfinity".toList, rfl, by decide⟩
  | int z =>
    have free : '-' ∉ naturalText z.natAbs := not_mem_naturalText rfl (by decide) _
    rw [toList_toText_int]
    split_ifs
    · exact ⟨'-', naturalText z.natAbs, rfl, free⟩
    · obtain ⟨c, cs, digits⟩ := List.exists_cons_of_ne_nil (naturalText_ne_nil z.natAbs)
      rw [digits] at free
      exact ⟨c, cs, digits, fun inside => free (List.mem_cons_of_mem c inside)⟩
  | fraction q =>
    obtain ⟨c, cs, digits, free⟩ : ∃ c cs, (toString q.num).toList = c :: cs ∧ '-' ∉ cs := by
      rw [toList_toString]
      split_ifs
      · obtain ⟨c, cs, digits⟩ := List.exists_cons_of_ne_nil
            (Nat.toDigits_ne_nil (n := q.num.toNat) (b := 10))
        have free : '-' ∉ Nat.toDigits 10 q.num.toNat := not_mem_toDigits rfl
        rw [digits] at free
        exact ⟨c, cs, digits, fun inside => free (List.mem_cons_of_mem c inside)⟩
      · exact ⟨'-', _, rfl, not_mem_toDigits rfl⟩
    refine ⟨c, cs ++ '/' :: Nat.toDigits 10 q.den, ?_, ?_⟩
    · rw [toList_toText_fraction, digits]
      rfl
    · rw [List.mem_append, List.mem_cons, not_or, not_or]
      exact ⟨free, by decide, not_mem_toDigits rfl⟩

/-- The kind of number a text is of, by the character only that kind has. -/
def kind (cs : List Char) : Nat :=
  if 'N' ∈ cs then 0 else if 'I' ∈ cs then 1 else if '/' ∈ cs then 2 else 3

theorem kind_toText (n : JsNumber) : kind n.toText.toList = match n with
    | nan => 0
    | infinity _ => 1
    | fraction _ => 2
    | int _ => 3 := by
  cases n with
  | nan => decide
  | infinity negative => cases negative <;> decide
  | int z =>
    unfold kind
    rw [if_neg (not_mem_toText_int rfl (by decide) z), if_neg (not_mem_toText_int rfl (by decide) z),
      if_neg (not_mem_toText_int rfl (by decide) z)]
  | fraction q =>
    have free {c : Char} (digit : c.isDigit = false) (dash : c ≠ '-') (stroke : c ≠ '/') :
        c ∉ (toText (fraction q)).toList := by
      rw [toList_toText_fraction, List.mem_append, List.mem_cons, not_or, not_or]
      exact ⟨not_mem_toString digit dash _, stroke, not_mem_toDigits digit⟩
    unfold kind
    rw [if_neg (free rfl (by decide) (by decide)), if_neg (free rfl (by decide) (by decide)),
      toList_toText_fraction, if_pos (List.mem_append_right _ List.mem_cons_self)]

/-- **A number is determined by its text.** -/
theorem toText_inj {m n : JsNumber} (same : m.toText = n.toText) : m = n := by
  have kinds : kind m.toText.toList = kind n.toText.toList := by rw [same]
  rw [kind_toText, kind_toText] at kinds
  cases m with
  | nan => cases n <;> first | rfl | cases kinds
  | infinity negative =>
    cases n with
    | infinity negative' =>
      cases negative <;> cases negative' <;> first | rfl | exact absurd same (by decide)
    | _ => cases kinds
  | int z =>
    cases n with
    | int z' => rw [toText_int_inj same]
    | _ => cases kinds
  | fraction q =>
    cases n with
    | fraction q' =>
      have lists := congrArg String.toList same
      rw [toList_toText_fraction, toList_toText_fraction] at lists
      obtain ⟨above, _, below⟩ := (List.append_cons_inj_of_notMem
        (not_mem_toString rfl (by decide) q.num) (not_mem_toDigits rfl)).mp lists
      have num : q.num = q'.num := toString_inj (String.toList_injective above)
      rw [Rat.ext num (toDigits_inj below)]
    | _ => cases kinds

end Texts

example : parseInt "0x855ad2" = .int 8739538 := by decide +kernel
example : parseInt " 12abc" = .int 12 ∧ parseInt "x" = .nan := by decide +kernel
example : Number "" = .int 0 ∧ Number "12abc" = .nan ∧ Number "1e3" = .int 1000 := by decide +kernel
example : parseInt "9007199254740993" = .int 9007199254740992 := by decide +kernel
example : (JsNumber.int (2 ^ 60)).toText = "1152921504606847000" := by decide +kernel
example : (JsNumber.int (-10 ^ 21)).toText = "-1e+21" := by decide +kernel

end Js
