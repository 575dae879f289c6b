/-
**Records of fixed width, packed one after the other.**

* `pack` — the encodings of the items, without anything between them.
* `drop_pack` — the items from one on.
* `field_pack` — the symbols at a place of an item.
* **`exists_field_iff`** — a word of the length of a field stands there in some item exactly when it stands in
  the packed text at the field's place behind a whole number of widths.
-/

import Mathlib.Data.List.Basic
import Mathlib.Tactic.Common
import Mathlib.Tactic.Ring

namespace Library.Packed

variable {α β : Type} {encode : α → List β} {width : Nat}

/-- The encodings of the items. -/
def pack (encode : α → List β) (items : List α) : List β := items.flatMap encode

/-- Every item takes the same number of symbols. -/
def FixedWidth (encode : α → List β) (width : Nat) : Prop := ∀ a, (encode a).length = width

theorem length_pack (fixed : FixedWidth encode width) (items : List α) :
    (pack encode items).length = items.length * width := by
  induction items with
  | nil => simp [pack]
  | cons a items ih =>
    have rest : (items.flatMap encode).length = items.length * width := ih
    rw [pack, List.flatMap_cons, List.length_append, fixed a, rest, List.length_cons]
    ring

/-- Behind the first items stand the others. -/
theorem drop_pack (fixed : FixedWidth encode width) (items : List α) (k : Nat) :
    (pack encode items).drop (k * width) = pack encode (items.drop k) := by
  induction k generalizing items with
  | zero => simp
  | succ k ih =>
    cases items with
    | nil => simp [pack]
    | cons a items =>
      have whole : (k + 1) * width = (encode a).length + k * width := by
        rw [fixed a]
        ring
      have first : (pack encode (a :: items)).drop (encode a).length = pack encode items := List.drop_left
      rw [whole, ← List.drop_drop, first, ih, List.drop_succ_cons]

/-- A field of an item stands at its place behind the items before. -/
theorem field_pack (fixed : FixedWidth encode width) {items : List α} {k : Nat} (inside : k < items.length)
    {offset length : Nat} (fits : offset + length ≤ width) :
    ((pack encode items).drop (k * width + offset)).take length =
      ((encode items[k]).drop offset).take length := by
  have long : offset + length ≤ (encode items[k]).length := by rwa [fixed]
  rw [← List.drop_drop, drop_pack fixed, List.drop_eq_getElem_cons inside, pack, List.flatMap_cons,
    List.drop_append_of_le_length (by omega), List.take_append_of_le_length (by rw [List.length_drop]; omega)]

/-- **The words at a field of the items** are the words at its places in the packed text. -/
theorem exists_field_iff (fixed : FixedWidth encode width) {items : List α} {offset : Nat} {word : List β}
    (filled : word ≠ []) (fits : offset + word.length ≤ width) :
    (∃ k, ((pack encode items).drop (k * width + offset)).take word.length = word) ↔
      ∃ a ∈ items, ((encode a).drop offset).take word.length = word := by
  constructor
  · rintro ⟨k, stands⟩
    by_cases inside : k < items.length
    · exact ⟨items[k], List.getElem_mem inside, by rw [← field_pack fixed inside fits, stands]⟩
    · -- nothing stands behind the last item
      have behind : (pack encode items).length ≤ k * width + offset := by
        rw [length_pack fixed]
        exact (Nat.mul_le_mul_right width (not_lt.mp inside)).trans (Nat.le_add_right _ _)
      rw [List.drop_of_length_le behind, List.take_nil] at stands
      exact absurd stands.symm filled
  · rintro ⟨a, member, stands⟩
    obtain ⟨k, inside, rfl⟩ := List.getElem_of_mem member
    exact ⟨k, by rw [field_pack fixed inside fits, stands]⟩

end Library.Packed
