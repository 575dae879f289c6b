/-
**Cutting an interval into consecutive windows.**

A loop `for (let b = first; b <= last; b += step)` that handles `[b, min(b + step - 1, last)]` on each
turn visits `windows step first last`.

* `Tiles first last ws` — the windows are non-empty, follow each other without a gap, and run from
  `first` to `last`. Every proof about such a loop is an induction on it.
* `windows_tiles` — `windows` tiles its interval.
* `windows_width`, `length_windows` — no window is longer than a step, and how many there are.
* `Tiles.exists_window`, `Tiles.bounds`, `Tiles.pairwise` — every block is in a window, no window
  leaves the interval, and the windows come in increasing order.
* `Tiles.flatMap_filter` — the items of a sorted list, window by window, are the items of the interval.
* `flatMap_filter_perm` — filters that do not overlap, one after the other.
* `Tiles.take` — what a loop that stops early has visited tiles the interval up to where it stopped.
-/

import Mathlib.Data.List.Basic
import Mathlib.Data.PNat.Defs
import Mathlib.Data.Rat.Floor
import Mathlib.Tactic.Common
import Mathlib.Tactic.NormNum

namespace Library.Windows

/-- A closed interval of integers. -/
structure Window where
  first : Int
  last : Int
  deriving DecidableEq

/-- The integer lies in the window. -/
def Window.Contains (w : Window) (b : Int) : Prop := w.first ≤ b ∧ b ≤ w.last

instance (w : Window) (b : Int) : Decidable (w.Contains b) := by
  unfold Window.Contains
  infer_instance

/-- The turns of the loop, at most `fuel` of them. -/
def windowsFrom (step : Nat) : Nat → Int → Int → List Window
  | 0, _, _ => []
  | fuel + 1, first, last =>
    if first ≤ last then
      ⟨first, min (first + step - 1) last⟩ :: windowsFrom step fuel (first + step) last
    else []

/-- The turns of the loop. -/
def windows (step : ℕ+) (first last : Int) : List Window :=
  windowsFrom step (last + 1 - first).toNat first last

/-- **The windows cover the interval from `first` to `last`, in order and without a gap.** -/
inductive Tiles : Int → Int → List Window → Prop
  | nil {first last : Int} : last < first → Tiles first last []
  | cons {last : Int} {w : Window} {ws : List Window} :
      w.first ≤ w.last → w.last ≤ last → Tiles (w.last + 1) last ws → Tiles w.first last (w :: ws)

theorem windowsFrom_tiles (step : ℕ+) (last : Int) :
    ∀ (fuel : Nat) (first : Int), last + 1 - first ≤ fuel →
      Tiles first last (windowsFrom step fuel first last)
  | 0, first, enough => .nil (by omega)
  | fuel + 1, first, enough => by
    have positive : 0 < (step : Nat) := step.pos
    unfold windowsFrom
    by_cases inside : first ≤ last
    · rw [if_pos inside]
      have rest := windowsFrom_tiles step last fuel (first + step) (by omega)
      refine Tiles.cons (w := ⟨first, min (first + step - 1) last⟩) (le_min (by dsimp only; omega) inside)
        (min_le_right _ _) ?_
      by_cases clipped : last < first + step
      · -- the last window: nothing is left after it
        have done : windowsFrom step fuel (first + step) last = [] := by
          cases fuel with
          | zero => rfl
          | succ fuel => rw [windowsFrom, if_neg (by omega)]
        rw [done]
        exact .nil (by dsimp only; omega)
      · have follows : min (first + (step : Int) - 1) last + 1 = first + step := by omega
        simp only [follows]
        exact rest
    · rw [if_neg inside]
      exact .nil (by omega)

/-- **`windows` tiles its interval.** -/
theorem windows_tiles (step : ℕ+) (first last : Int) : Tiles first last (windows step first last) :=
  windowsFrom_tiles step last _ first (by omega)

/-- An interval no longer than a step is one window. -/
theorem windows_short {step : ℕ+} {first last : Int} (inside : first ≤ last)
    (short : last < first + step) : windows step first last = [⟨first, last⟩] := by
  have turns : (last + 1 - first).toNat = (last - first).toNat + 1 := by omega
  have clipped : min (first + (step : Int) - 1) last = last := by omega
  unfold windows
  rw [turns, windowsFrom, if_pos inside, clipped]
  cases (last - first).toNat with
  | zero => rfl
  | succ fuel => rw [windowsFrom, if_neg (by omega)]

/-- A window is no longer than a step. -/
theorem windowsFrom_width {step : Nat} {last : Int} : ∀ {fuel : Nat} {first : Int},
    ∀ w ∈ windowsFrom step fuel first last, w.last - w.first + 1 ≤ step
  | 0, _, _, inside => by cases inside
  | fuel + 1, first, w, inside => by
    unfold windowsFrom at inside
    by_cases start : first ≤ last
    · rw [if_pos start] at inside
      rcases List.mem_cons.mp inside with rfl | later
      · dsimp only
        omega
      · exact windowsFrom_width w later
    · rw [if_neg start] at inside
      cases inside

theorem windows_width {step : ℕ+} {first last : Int} :
    ∀ w ∈ windows step first last, w.last - w.first + 1 ≤ step := windowsFrom_width

theorem length_windowsFrom (step : ℕ+) (last : Int) : ∀ (fuel : Nat) (first : Int),
    last + 1 - first ≤ fuel → first ≤ last →
      ((windowsFrom step fuel first last).length - 1 : Int) * step < last + 1 - first ∧
        last + 1 - first ≤ (windowsFrom step fuel first last).length * step
  | 0, first, enough, start => by omega
  | fuel + 1, first, enough, start => by
    have positive : 0 < (step : Nat) := step.pos
    rw [windowsFrom, if_pos start, List.length_cons, Nat.cast_add_one, add_sub_cancel_right, add_one_mul]
    by_cases more : first + step ≤ last
    · obtain ⟨below, above⟩ := length_windowsFrom step last fuel (first + step) (by omega) more
      rw [sub_one_mul] at below
      omega
    · have done : windowsFrom step fuel (first + step) last = [] := by
        cases fuel with
        | zero => rfl
        | succ fuel => rw [windowsFrom, if_neg more]
      rw [done, List.length_nil, Nat.cast_zero, zero_mul]
      omega

/-- **How many windows an interval is cut into.** -/
theorem length_windows (step : ℕ+) {first last : Int} (start : first ≤ last) :
    ((windows step first last).length : Int) = ⌈((last - first + 1 : Int) : ℚ) / step⌉ := by
  obtain ⟨below, above⟩ := length_windowsFrom step last (last + 1 - first).toNat first (by omega) start
  have positive : (0 : ℚ) < step := by exact_mod_cast step.pos
  have same : last - first + 1 = last + 1 - first := by ring
  rw [same]
  refine (Int.ceil_eq_iff.mpr ⟨(lt_div_iff₀ positive).mpr ?_, (div_le_iff₀ positive).mpr ?_⟩).symm
  · exact_mod_cast below
  · exact_mod_cast above

/-- The end of the last of the windows, or `b` when there is none. -/
def lastOf (b : Int) (ws : List Window) : Int := ws.foldl (fun _ w => w.last) b

theorem lastOf_concat (b : Int) (ws : List Window) (w : Window) : lastOf b (ws ++ [w]) = w.last := by
  unfold lastOf
  rw [List.foldl_append]
  rfl

theorem lastOf_append (b : Int) (vs ws : List Window) :
    lastOf b (vs ++ ws) = lastOf (lastOf b vs) ws := by
  unfold lastOf
  rw [List.foldl_append]

/-- Two parts of a list of which one comes before the other. -/
theorem filter_append_filter {α : Type} {p q : α → Prop} [DecidablePred p] [DecidablePred q] :
    ∀ {xs : List α}, (xs.Pairwise fun a b => q a → ¬ p b) → (∀ a, p a → ¬ q a) →
      xs.filter p ++ xs.filter q = xs.filter fun a => p a ∨ q a
  | [], _, _ => rfl
  | a :: xs, ordered, disjoint => by
    obtain ⟨first, rest⟩ := List.pairwise_cons.mp ordered
    have ih := filter_append_filter rest disjoint
    by_cases left : p a
    · simpa [left, disjoint a left] using ih
    · by_cases right : q a
      · -- nothing of the first part comes later
        have none : xs.filter p = [] := List.filter_eq_nil_iff.mpr fun b inside => by
          simpa using first b inside right
        rw [none] at ih
        simpa [left, right, none] using ih
      · simpa [left, right] using ih

/-- **Filters that do not overlap**, one after the other, are one filter. -/
theorem flatMap_filter_perm {α β : Type} (p : α → β → Prop) [∀ a, DecidablePred (p a)] {bs : List β} :
    ∀ {as : List α}, as.Pairwise (fun a a' => ∀ b ∈ bs, p a b → ¬ p a' b) →
      (as.flatMap fun a => bs.filter (p a)).Perm (bs.filter fun b => ∃ a ∈ as, p a b)
  | [], _ => by simp
  | a :: as, apart => by
    obtain ⟨first, others⟩ := List.pairwise_cons.mp apart
    have all := List.filter_append_perm (fun b => decide (p a b))
        (bs.filter fun b => ∃ a' ∈ a :: as, p a' b)
    have here : ((bs.filter fun b => ∃ a' ∈ a :: as, p a' b).filter fun b => decide (p a b)) =
        bs.filter (p a) := by
      rw [List.filter_filter]
      refine List.filter_congr fun b _ => Bool.eq_iff_iff.mpr ?_
      simp only [List.mem_cons, exists_eq_or_imp, Bool.and_eq_true, decide_eq_true_iff]
      exact ⟨And.left, fun holds => ⟨holds, .inl holds⟩⟩
    have rest : ((bs.filter fun b => ∃ a' ∈ a :: as, p a' b).filter fun b => !decide (p a b)) =
        bs.filter fun b => ∃ a' ∈ as, p a' b := by
      rw [List.filter_filter]
      refine List.filter_congr fun b inside => Bool.eq_iff_iff.mpr ?_
      simp only [List.mem_cons, exists_eq_or_imp, Bool.and_eq_true, Bool.not_eq_true',
        decide_eq_true_iff,
        decide_eq_false_iff_not]
      constructor
      · rintro ⟨other, holds⟩
        exact holds.resolve_left other
      · rintro ⟨a', member, holds⟩
        exact ⟨fun both => first a' member b inside both holds, .inr ⟨a', member, holds⟩⟩
    rw [here, rest] at all
    rw [List.flatMap_cons]
    exact ((flatMap_filter_perm p others).append_left _).trans all

namespace Tiles

variable {first last : Int} {ws : List Window}

theorem bounds (tiles : Tiles first last ws) :
    ∀ w ∈ ws, first ≤ w.first ∧ w.first ≤ w.last ∧ w.last ≤ last := by
  induction tiles with
  | nil _ => exact fun _ member => by cases member
  | cons nonempty within _ ih =>
    intro v member
    rcases List.mem_cons.mp member with rfl | member
    · exact ⟨le_rfl, nonempty, within⟩
    · obtain ⟨after, order, below⟩ := ih v member
      exact ⟨by omega, order, below⟩

/-- Windows come in increasing order. -/
theorem pairwise (tiles : Tiles first last ws) : ws.Pairwise fun v w => v.last < w.first := by
  induction tiles with
  | nil _ => exact List.Pairwise.nil
  | cons _ _ rest ih =>
    refine List.Pairwise.cons (fun v member => ?_) ih
    have after := (rest.bounds v member).1
    omega

/-- A first part of the windows tiles the interval up to its own end. -/
theorem take {vs : List Window} (tiles : Tiles first last ws) (part : vs <+: ws) :
    Tiles first (lastOf (first - 1) vs) vs ∧ first - 1 ≤ lastOf (first - 1) vs ∧
      (vs ≠ [] → lastOf (first - 1) vs ≤ last) := by
  induction tiles generalizing vs with
  | @nil first _ _ =>
    rw [List.prefix_nil.mp part]
    exact ⟨.nil (by show first - 1 < first; omega), le_rfl, fun other => absurd rfl other⟩
  | @cons _ w _ nonempty within _ ih =>
    cases vs with
    | nil => exact ⟨.nil (by show w.first - 1 < w.first; omega), le_rfl, fun other => absurd rfl other⟩
    | cons v vs =>
      obtain ⟨rfl, rest⟩ := List.cons_prefix_cons.mp part
      obtain ⟨tail, above, below⟩ := ih rest
      have start : v.last + 1 - 1 = v.last := by omega
      rw [start] at tail above below
      refine ⟨.cons nonempty above tail, by show v.first - 1 ≤ lastOf v.last vs; omega, fun _ => ?_⟩
      show lastOf v.last vs ≤ _
      cases vs with
      | nil => exact within
      | cons _ _ => exact below (List.cons_ne_nil _ _)

/-- Every integer of the interval is in a window. -/
theorem exists_window (tiles : Tiles first last ws) {b : Int} (above : first ≤ b)
    (below : b ≤ last) : ∃ w ∈ ws, w.Contains b := by
  induction tiles with
  | nil empty => omega
  | @cons _ w _ nonempty within _ ih =>
    by_cases here : b ≤ w.last
    · exact ⟨w, List.mem_cons_self, above, here⟩
    · obtain ⟨v, member, inside⟩ := ih (by omega) below
      exact ⟨v, List.mem_cons_of_mem _ member, inside⟩

/-- **What lies in the windows, window by window**, is what lies in the interval. -/
theorem flatMap_filter {α : Type} {xs : List α} {place : α → Int}
    (sorted : xs.Pairwise fun a b => place a ≤ place b) (tiles : Tiles first last ws) :
    (ws.flatMap fun w => xs.filter fun a => w.Contains (place a))
      = xs.filter fun a => first ≤ place a ∧ place a ≤ last := by
  induction tiles with
  | nil empty =>
    refine (List.filter_eq_nil_iff.mpr fun a _ => ?_).symm
    rw [decide_eq_true_iff]
    omega
  | @cons last w ws nonempty within _ ih =>
    rw [List.flatMap_cons, ih, filter_append_filter]
    · refine List.filter_congr fun a _ => decide_eq_decide.mpr ?_
      unfold Window.Contains
      omega
    · refine sorted.imp fun {a b} order => ?_
      unfold Window.Contains
      omega
    · intro a
      unfold Window.Contains
      omega

end Tiles

end Library.Windows
