/-
**JavaScript strings, as far as the ejector reads them.**

Every text the code takes apart is hexadecimal or JSON, so a string is read through its list of
characters.

* `slice`, `sliceFrom` — `s.slice(start, stop)` and `s.slice(start)`.
* `includes` — `s.includes(t)`, the unaligned substring search.
* `toLowerCase` — letter case is changed for the ASCII letters; both sides of every comparison that
  lowers the case of a text compare it with a hexadecimal one.
* `trim` — `s.trim()`; `Trimmed` — no white space at either end, as `trimmed_trim` leaves it.
-/

import Mathlib.Data.List.DropRight
import Mathlib.Data.List.Infix
import Mathlib.Tactic.Common

namespace Js

/-- `s.slice(start, stop)` for `0 ≤ start`. -/
def slice (s : String) (start stop : Nat) : String :=
  String.ofList ((s.toList.take stop).drop start)

/-- `s.slice(start)`. -/
def sliceFrom (s : String) (start : Nat) : String :=
  String.ofList (s.toList.drop start)

/-- `s.includes(t)`. -/
def includes (s t : String) : Bool :=
  decide (t.toList <:+: s.toList)

/-- `s.toLowerCase()`. -/
def toLowerCase (s : String) : String :=
  String.ofList (s.toList.map Char.toLower)

/-- White space and line terminators, as `trim`, `Number` and `parseInt` skip them. -/
def isWhiteSpace (c : Char) : Bool :=
  c.toNat ∈ [0x20, 0xA0, 0x1680, 0x2028, 0x2029, 0x202F, 0x205F, 0x3000, 0xFEFF]
    || (0x9 ≤ c.toNat && c.toNat ≤ 0xD) || (0x2000 ≤ c.toNat && c.toNat ≤ 0x200A)

/-- `s.trimStart()`. -/
def trimStart (cs : List Char) : List Char := cs.dropWhile isWhiteSpace

/-- `s.trim()`. -/
def trim (cs : List Char) : List Char := ((trimStart cs).reverse.dropWhile isWhiteSpace).reverse

theorem dropWhile_solid {cs : List Char} (solid : ∀ c ∈ cs, isWhiteSpace c = false) :
    cs.dropWhile isWhiteSpace = cs := by
  cases cs with
  | nil => rfl
  | cons c cs => exact List.dropWhile_cons_of_neg (by simp [solid c List.mem_cons_self])

/-- A text without white space is its own trim. -/
theorem trim_solid {cs : List Char} (solid : ∀ c ∈ cs, isWhiteSpace c = false) : trim cs = cs := by
  unfold trim trimStart
  rw [dropWhile_solid solid, dropWhile_solid fun c inside => solid c (List.mem_reverse.mp inside),
    List.reverse_reverse]

/-- No white space at either end. -/
structure Trimmed (cs : List Char) : Prop where
  head : ∀ c ∈ cs.head?, isWhiteSpace c = false
  last : ∀ c ∈ cs.getLast?, isWhiteSpace c = false

theorem trim_eq_rdropWhile (cs : List Char) : trim cs = (trimStart cs).rdropWhile isWhiteSpace := rfl

/-- What `trimStart` leaves and `trim` does not is white space at the end. -/
theorem exists_blank (cs : List Char) : ∃ blank, (∀ c ∈ blank, isWhiteSpace c = true) ∧
    trimStart cs = trim cs ++ blank :=
  ⟨(trimStart cs).rtakeWhile isWhiteSpace, fun _ inside => List.mem_rtakeWhile_imp inside,
    List.rdropWhile_append_rtakeWhile.symm⟩

theorem trim_prefix_trimStart (cs : List Char) : trim cs <+: trimStart cs := List.rdropWhile_prefix _ _

theorem mem_of_mem_trim {cs : List Char} {c : Char} (inside : c ∈ trim cs) : c ∈ cs :=
  (List.dropWhile_suffix _).subset ((trim_prefix_trimStart cs).subset inside)

theorem trimmed_trim (cs : List Char) : Trimmed (trim cs) where
  head c first := by
    have start : c ∈ (trimStart cs).head? := by
      obtain ⟨blank, whole⟩ := trim_prefix_trimStart cs
      rw [← whole, List.head?_append, Option.mem_def.mp first]
      rfl
    have solid := List.head?_dropWhile_not isWhiteSpace cs
    unfold trimStart at start
    rw [Option.mem_def.mp start] at solid
    simpa using solid
  last c last := by
    obtain ⟨nonempty, rfl⟩ := List.mem_getLast?_eq_getLast last
    exact (Bool.not_eq_true _).mp (List.rdropWhile_last_not isWhiteSpace (trimStart cs) nonempty)

theorem trim_of_trimmed {cs : List Char} (trimmed : Trimmed cs) : trim cs = cs := by
  have start : trimStart cs = cs := by
    refine List.dropWhile_eq_self_iff.mpr fun nonempty blank => ?_
    have solid := trimmed.head cs[0] (List.getElem?_eq_getElem nonempty ▸ List.head?_eq_getElem?)
    rw [solid] at blank
    cases blank
  rw [trim_eq_rdropWhile, start]
  refine List.rdropWhile_eq_self_iff.mpr fun nonempty blank => ?_
  rw [trimmed.last _ (List.getLast?_eq_getLast_of_ne_nil nonempty)] at blank
  cases blank

end Js
