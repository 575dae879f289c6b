/-
**Replacing every occurrence of a word.**

A text is scanned from the left; at an occurrence of the word the replacement is written and the scan goes
on behind the occurrence.

* `replace` — the scan; `Replaced` — what it does, as a chain of gaps without the word.
* `Apart r w` — the words do not contain or overlap one another.
* `Replaced.infix_before` — a word that is apart from the replacement and in no gap is not in the result; so
  the replaced word is gone (`not_infix_replace`), and none comes back (`infix_of_infix_replace`).
* `infix_append_cons_iff` — a word is on one side of a letter it does not use.
* `replace_append_cons` — a letter outside of the word cuts the scan in two.
* `replaceEach` — several words, one after the other: all of them are gone (`not_infix_replaceEach`), and a
  block free of them stays between two letters they do not use (`replaceEach_fenced`).
-/

import Mathlib.Data.List.Infix
import Mathlib.Tactic.Common

namespace Library

variable {α : Type}

/-- Neither word contains or overlaps the other. -/
structure Apart (r w : List α) : Prop where
  outside : ¬ w <:+: r
  around : ¬ r <:+: w
  before : ∀ u, u ≠ [] → u <:+ w → ¬ u <+: r
  after : ∀ u, u ≠ [] → u <+: w → ¬ u <:+ r

/-- **A word apart from a block** is in front of the block or behind it. -/
theorem Apart.infix_append {r w : List α} (apart : Apart r w) {x y : List α}
    (inside : w <:+: x ++ (r ++ y)) : w <:+: x ∨ w <:+: y := by
  rcases List.infix_append_iff_ne_nil.mp inside with left | right | ⟨u, v, _, some_v, rfl, _, front⟩
  · exact .inl left
  · rcases List.infix_append_iff_ne_nil.mp right with in_r | in_y | ⟨u, v, some_u, _, rfl, back, _⟩
    · exact absurd in_r apart.outside
    · exact .inr in_y
    · exact absurd back (apart.after u some_u (List.prefix_append u v))
  · rcases List.prefix_or_prefix_of_prefix front (List.prefix_append r y) with short | long
    · exact absurd short (apart.before v some_v (List.suffix_append u v))
    · exact absurd (long.isInfix.trans (List.suffix_append u v).isInfix) apart.around

/-- Words without a common letter are apart. -/
theorem Apart.of_disjoint {r w : List α} (some_r : r ≠ []) (some_w : w ≠ []) (disjoint : ∀ c ∈ w, c ∉ r) :
    Apart r w := by
  have common {u : List α} (some_u : u ≠ []) (in_w : u ⊆ w) (in_r : u ⊆ r) : False := by
    obtain ⟨c, cs, rfl⟩ := List.exists_cons_of_ne_nil some_u
    exact disjoint c (in_w List.mem_cons_self) (in_r List.mem_cons_self)
  constructor
  · exact fun inside => common some_w (List.Subset.refl w) inside.subset
  · exact fun inside => common some_r inside.subset (List.Subset.refl r)
  · exact fun u some_u in_w in_r => common some_u in_w.subset in_r.subset
  · exact fun u some_u in_w in_r => common some_u in_w.subset in_r.subset

/-! ### The chain of gaps -/

/-- The occurrences of a word are replaced, from left to right. -/
inductive Replaced (w r : List α) : List α → List α → Prop
  | done {gap : List α} (free : ¬ w <:+: gap) : Replaced w r gap gap
  | next {gap rest out : List α} (free : ¬ w <:+: gap) (tail : Replaced w r rest out) :
      Replaced w r (gap ++ (w ++ rest)) (gap ++ (r ++ out))

namespace Replaced

variable {w r text out : List α}

/-- **Nothing new comes up**: a word apart from the replacement was in a gap. -/
theorem infix_before (run : Replaced w r text out) {u : List α} (apart : Apart r u)
    (inside : u <:+: out) : u <:+: text ∧ u ≠ w := by
  induction run with
  | done free => exact ⟨inside, fun same => free (same ▸ inside)⟩
  | @next gap rest out free tail ih =>
    rcases apart.infix_append inside with left | right
    · exact ⟨left.trans (List.prefix_append gap _).isInfix, fun same => free (same ▸ left)⟩
    · refine ⟨(ih right).1.trans ?_, (ih right).2⟩
      exact ((List.suffix_append w rest).trans (List.suffix_append gap _)).isInfix

/-- One more letter in front, which starts no occurrence. -/
theorem cons {c : α} (run : Replaced w r text out) (none : ¬ w <+: c :: text) :
    Replaced w r (c :: text) (c :: out) := by
  cases run with
  | done free =>
    refine .done ?_
    rw [List.infix_cons_iff, not_or]
    exact ⟨none, free⟩
  | @next gap rest out free tail =>
    refine @Replaced.next _ _ _ (c :: gap) _ _ ?_ tail
    rw [List.infix_cons_iff, not_or]
    exact ⟨fun front => none (front.trans ((List.prefix_append (c :: gap) _))), free⟩

end Replaced

/-- A word without the letter ends in front of it. -/
theorem prefix_append_cons_iff {w : List α} {c : α} (other : c ∉ w) {x y : List α} :
    w <+: x ++ c :: y ↔ w <+: x := by
  refine ⟨fun front => ?_, fun front => front.trans (List.prefix_append x _)⟩
  rcases List.prefix_or_prefix_of_prefix front (List.prefix_append x (c :: y)) with short | long
  · exact short
  · obtain ⟨v, rfl⟩ := long
    rw [List.prefix_append_right_inj] at front
    cases v with
    | nil => rw [List.append_nil]
    | cons d v =>
      rw [List.cons_prefix_cons] at front
      exact absurd (List.mem_append_right x (front.1 ▸ List.mem_cons_self)) other

/-- A word without the separator is on one side of it. -/
theorem infix_append_cons_iff {w : List α} {c : α} (other : c ∉ w) {x y : List α} :
    w <:+: x ++ c :: y ↔ w <:+: x ∨ w <:+: y := by
  have before (z : List α) : w <+: z ++ c :: y ↔ w <+: z := prefix_append_cons_iff other
  induction x with
  | nil =>
    have front : w <+: c :: y ↔ w <+: [] := before []
    rw [List.nil_append, List.infix_cons_iff, front, List.prefix_nil, List.infix_nil]
  | cons a x ih =>
    rw [List.cons_append, List.infix_cons_iff, List.infix_cons_iff, or_assoc]
    exact or_congr (before (a :: x)) ih

/-! ### The scan -/

variable [DecidableEq α]

/-- The scan, with a number of letters to pass over. -/
def replaceFrom (w r : List α) : Nat → List α → List α
  | _, [] => []
  | skip + 1, _ :: cs => replaceFrom w r skip cs
  | 0, c :: cs =>
    if w <+: c :: cs then r ++ replaceFrom w r (w.length - 1) cs else c :: replaceFrom w r 0 cs

/-- Every occurrence of `w` replaced by `r`. -/
def replace (w r text : List α) : List α := replaceFrom w r 0 text

section Scan

variable {w r : List α}

theorem replaceFrom_skip (skip : Nat) (text : List α) :
    replaceFrom w r skip text = replaceFrom w r 0 (text.drop skip) := by
  induction text generalizing skip with
  | nil => cases skip <;> rfl
  | cons c cs ih =>
    cases skip with
    | zero => rfl
    | succ skip => exact ih skip

/-- An occurrence is replaced. -/
theorem replace_append (filled : w ≠ []) (rest : List α) :
    replace w r (w ++ rest) = r ++ replace w r rest := by
  obtain ⟨c, cs, rfl⟩ := List.exists_cons_of_ne_nil filled
  have here : c :: cs <+: c :: (cs ++ rest) := List.prefix_append (c :: cs) rest
  unfold replace
  rw [List.cons_append, replaceFrom, if_pos here, replaceFrom_skip]
  simp

/-- A letter that starts no occurrence stays. -/
theorem replace_cons {c : α} {cs : List α} (none : ¬ w <+: c :: cs) :
    replace w r (c :: cs) = c :: replace w r cs := if_neg none

/-- **The scan replaces the occurrences from left to right.** -/
theorem replaced_replace (filled : w ≠ []) (text : List α) : Replaced w r text (replace w r text) := by
  induction length : text.length using Nat.strong_induction_on generalizing text with
  | _ n ih =>
    cases text with
    | nil => exact .done fun inside => filled (List.infix_nil.mp inside)
    | cons c cs =>
      by_cases here : w <+: c :: cs
      · obtain ⟨rest, split⟩ := here
        have shorter : rest.length < n := by
          have positive := List.length_pos_iff.mpr filled
          rw [← length, ← split, List.length_append]
          omega
        rw [← split, replace_append filled]
        refine @Replaced.next _ _ _ [] _ _ (fun inside => ?_) (ih _ shorter rest rfl)
        exact filled (List.infix_nil.mp inside)
      · rw [replace_cons here]
        exact (ih cs.length (by rw [← length]; simp) cs rfl).cons here

/-- **A replaced word is gone.** -/
theorem not_infix_replace (filled : w ≠ []) (apart : Apart r w) (text : List α) :
    ¬ w <:+: replace w r text := fun inside =>
  ((replaced_replace filled text).infix_before apart inside).2 rfl

/-- **No other word comes up.** -/
theorem infix_of_infix_replace (filled : w ≠ []) {u : List α} (apart : Apart r u) {text : List α}
    (inside : u <:+: replace w r text) : u <:+: text :=
  ((replaced_replace filled text).infix_before apart inside).1

/-- A text without the word stays. -/
theorem replace_of_not_infix {text : List α} (free : ¬ w <:+: text) : replace w r text = text := by
  induction text with
  | nil => rfl
  | cons c cs ih =>
    rw [List.infix_cons_iff, not_or] at free
    rw [replace_cons free.1, ih free.2]

/-- **A letter outside of the word cuts the scan in two.** -/
theorem replace_append_cons {c : α} (filled : w ≠ []) (other : c ∉ w) (x y : List α) :
    replace w r (x ++ c :: y) = replace w r x ++ c :: replace w r y := by
  induction length : x.length using Nat.strong_induction_on generalizing x with
  | _ n ih =>
    cases x with
    | nil =>
      refine replace_cons fun front => ?_
      exact filled (List.prefix_nil.mp ((prefix_append_cons_iff (x := []) other).mp front))
    | cons d ds =>
      by_cases here : w <+: d :: ds
      · obtain ⟨rest, split⟩ := here
        have shorter : rest.length < n := by
          have positive := List.length_pos_iff.mpr filled
          rw [← length, ← split, List.length_append]
          omega
        rw [← split, List.append_assoc, replace_append filled, replace_append filled, ih _ shorter rest rfl,
          List.append_assoc]
      · have apart : ¬ w <+: d :: (ds ++ c :: y) := by
          intro front
          exact here ((prefix_append_cons_iff (x := d :: ds) other).mp front)
        show replace w r (d :: (ds ++ c :: y)) = _
        rw [replace_cons apart, replace_cons here, ih ds.length (by rw [← length]; simp) ds rfl,
          List.cons_append]

end Scan

/-! ### Several words -/

/-- The words replaced one after the other. -/
def replaceEach (words : List (List α)) (r text : List α) : List α :=
  words.foldl (fun acc w => replace w r acc) text

section Each

variable {r : List α}

@[simp] theorem replaceEach_nil (text : List α) : replaceEach [] r text = text := rfl

@[simp] theorem replaceEach_cons (w : List α) (words : List (List α)) (text : List α) :
    replaceEach (w :: words) r text = replaceEach words r (replace w r text) := rfl

theorem infix_of_infix_replaceEach {u : List α} (apart : Apart r u) {words : List (List α)}
    (filled : ∀ w ∈ words, w ≠ []) {text : List α} (inside : u <:+: replaceEach words r text) :
    u <:+: text := by
  induction words generalizing text with
  | nil => exact inside
  | cons w words ih =>
    rw [List.forall_mem_cons] at filled
    exact infix_of_infix_replace filled.1 apart (ih filled.2 inside)

/-- **All of the words are gone.** -/
theorem not_infix_replaceEach {words : List (List α)} (filled : ∀ w ∈ words, w ≠ [])
    (apart : ∀ w ∈ words, Apart r w) {w : List α} (listed : w ∈ words) (text : List α) :
    ¬ w <:+: replaceEach words r text := by
  induction words generalizing text with
  | nil => cases listed
  | cons v words ih =>
    rw [List.forall_mem_cons] at filled apart
    intro inside
    rcases List.mem_cons.mp listed with rfl | later
    · exact not_infix_replace filled.1 apart.1 text (infix_of_infix_replaceEach apart.1 filled.2 inside)
    · exact ih filled.2 apart.2 later _ inside

/-- **A fenced block** without the words stays. -/
theorem replaceEach_fenced {c : α} {block : List α} {words : List (List α)}
    (filled : ∀ w ∈ words, w ≠ []) (other : ∀ w ∈ words, c ∉ w)
    (free : ∀ w ∈ words, ¬ w <:+: block) (x y : List α) :
    replaceEach words r (x ++ c :: (block ++ c :: y)) =
      replaceEach words r x ++ c :: (block ++ c :: replaceEach words r y) := by
  induction words generalizing x y with
  | nil => rfl
  | cons w words ih =>
    rw [List.forall_mem_cons] at filled other free
    rw [replaceEach_cons, replace_append_cons filled.1 other.1, replace_append_cons filled.1 other.1,
      replace_of_not_infix free.1, ih filled.2 other.2 free.2]
    rfl

end Each

end Library
