/-
**Machines that take turns over a shared state, in any order.**

* `Machine` — what runs from one await to the next; its turns are bounded.
* `settle` — a pool of machines, until all are finished. Who is next is up to the state.
* `settle_rule` — what every turn keeps holds at the end, when all machines are finished.
* `settleFor_alone` — a machine on its own takes its turns one after the other.
* `Interleaved` — some lists in one, each in its own order; `Interleaved.append` — one of them grows.
-/

import Mathlib.Algebra.GroupWithZero.Nat
import Mathlib.Data.List.Basic
import Mathlib.Data.List.Perm.Basic
import Mathlib.Tactic.Common

namespace Library

/-- **A machine** over a shared state. It is finished when it has no turns left. -/
structure Machine (τ σ : Type) where
  turn : τ → σ → τ × σ
  left : τ → Nat
  turn_left : ∀ t s, 0 < left t → left (turn t s).1 < left t

namespace Machine

variable {τ σ : Type} (m : Machine τ σ) (pick : σ → Nat × σ)

def Unfinished (t : τ) : Prop := 0 < m.left t

instance : DecidablePred m.Unfinished := fun t => inferInstanceAs (Decidable (0 < m.left t))

/-- The place that is next: the one picked, or the first where that machine is finished. -/
def next (pool : List τ) (picked : Nat) : Option Nat :=
  if pool[picked]?.any (m.Unfinished ·) then some picked else pool.findIdx? (m.Unfinished ·)

/-- The turns the machines have left in all. -/
def total (pool : List τ) : Nat := (pool.map m.left).sum

/-- The pool after some turns, or until all machines are finished. -/
def settleFor : Nat → List τ → σ → List τ × σ
  | 0, pool, s => (pool, s)
  | fuel + 1, pool, s =>
    let (picked, s) := pick s
    match m.next pool picked with
    | none => (pool, s)
    | some i =>
      match pool[i]? with
      | none => (pool, s)
      | some t =>
        let (t, s) := m.turn t s
        settleFor fuel (pool.set i t) s

/-- **The pool until all machines are finished.** -/
def settle (pool : List τ) (s : σ) : List τ × σ := m.settleFor pick (m.total pool) pool s

variable {m pick} {pool : List τ} {s : σ} {i picked : Nat} {t : τ}

theorem next_some (found : m.next pool picked = some i) : ∃ t, pool[i]? = some t ∧ m.Unfinished t := by
  unfold next at found
  split at found
  · rename_i here
    cases found
    obtain ⟨t, at_i, unfinished⟩ := (Option.any_eq_true _ _).mp here
    exact ⟨t, at_i, of_decide_eq_true unfinished⟩
  · obtain ⟨bound, unfinished, -⟩ := List.findIdx?_eq_some_iff_getElem.mp found
    exact ⟨pool[i], List.getElem?_eq_getElem bound, of_decide_eq_true unfinished⟩

theorem next_none (nothing : m.next pool picked = none) : ∀ t ∈ pool, ¬ m.Unfinished t := by
  unfold next at nothing
  split at nothing
  · cases nothing
  · intro t inside
    exact of_decide_eq_false (List.findIdx?_eq_none_iff.mp nothing t inside)

/-- A turn leaves fewer. -/
theorem total_turn (at_i : pool[i]? = some t) (unfinished : m.Unfinished t) (s : σ) :
    m.total (pool.set i (m.turn t s).1) < m.total pool := by
  have fewer := m.turn_left t s unfinished
  obtain ⟨bound, rfl⟩ := List.getElem?_eq_some_iff.mp at_i
  obtain ⟨before, after, split, -, changed⟩ := @List.exists_of_set _ _ (m.turn pool[i] s).1 _ bound
  have total_split (t : τ) : m.total (before ++ t :: after) = m.total before + (m.left t + m.total after) := by
    simp [total]
  rw [changed, total_split]
  conv_rhs => rw [split, total_split]
  omega

theorem total_eq_zero : m.total pool = 0 ↔ ∀ t ∈ pool, ¬ m.Unfinished t := by
  simp [total, Unfinished, List.sum_eq_zero_iff_forall_eq_nat]

/-- **What every turn keeps holds at the end**, when all machines are finished. -/
theorem settleFor_rule {I : List τ → σ → Prop} (picked : ∀ pool s, I pool s → I pool (pick s).2)
    (turn : ∀ pool s i t, I pool s → pool[i]? = some t → m.Unfinished t →
      I (pool.set i (m.turn t s).1) (m.turn t s).2) :
    ∀ {fuel : Nat} {pool : List τ} {s : σ}, m.total pool ≤ fuel → I pool s →
      I (m.settleFor pick fuel pool s).1 (m.settleFor pick fuel pool s).2 ∧
        ∀ t ∈ (m.settleFor pick fuel pool s).1, ¬ m.Unfinished t
  | 0, pool, s, enough, start => ⟨start, total_eq_zero.mp (Nat.le_zero.mp enough)⟩
  | fuel + 1, pool, s, enough, start => by
    unfold settleFor
    have chosen := picked pool s start
    generalize pick s = pair at chosen
    rcases pair with ⟨k, s₁⟩
    dsimp only
    cases found : m.next pool k with
    | none => exact ⟨chosen, next_none found⟩
    | some i =>
      obtain ⟨t, at_i, unfinished⟩ := next_some found
      have fewer := total_turn at_i unfinished s₁
      dsimp only
      rw [at_i]
      exact settleFor_rule picked turn (Nat.le_of_lt_succ (Nat.lt_of_lt_of_le fewer enough))
        (turn pool s₁ i t chosen at_i unfinished)

theorem settle_rule {I : List τ → σ → Prop} (picked : ∀ pool s, I pool s → I pool (pick s).2)
    (turn : ∀ pool s i t, I pool s → pool[i]? = some t → m.Unfinished t →
      I (pool.set i (m.turn t s).1) (m.turn t s).2) (start : I pool s) :
    I (m.settle pick pool s).1 (m.settle pick pool s).2 ∧
      ∀ t ∈ (m.settle pick pool s).1, ¬ m.Unfinished t :=
  settleFor_rule picked turn (Nat.le_refl _) start

/-- A pool that is finished is left alone. -/
theorem settleFor_finished (quiet : ∀ s, (pick s).2 = s) (finished : ∀ t ∈ pool, ¬ m.Unfinished t) (fuel : Nat)
    (s : σ) : m.settleFor pick fuel pool s = (pool, s) := by
  cases fuel with
  | zero => rfl
  | succ fuel =>
    unfold settleFor
    have same := quiet s
    generalize pick s = pair at same
    rcases pair with ⟨k, s₁⟩
    cases same
    dsimp only
    cases found : m.next pool k with
    | none => rfl
    | some i =>
      obtain ⟨t, at_i, unfinished⟩ := next_some found
      exact absurd unfinished (finished t (List.mem_of_getElem? at_i))

/-- A turn of a machine that is alone. -/
theorem settleFor_alone (unfinished : m.Unfinished t) (fuel : Nat) (s : σ) :
    m.settleFor (fun s => (0, s)) (fuel + 1) [t] s =
      m.settleFor (fun s => (0, s)) fuel [(m.turn t s).1] (m.turn t s).2 := by
  have first : m.next [t] 0 = some 0 := by
    unfold next
    rw [if_pos]
    simpa using unfinished
  conv_lhs => unfold settleFor
  dsimp only
  rw [first]
  rfl

end Machine

/-! ### Interleavings -/

/-- Two items at the same place. -/
theorem forall₂_get {α β : Type} {R : α → β → Prop} : ∀ {as : List α} {bs : List β} {i : Nat} {a : α} {b : β},
    List.Forall₂ R as bs → as[i]? = some a → bs[i]? = some b → R a b
  | _, _, _, _, _, .nil, absent, _ => by cases absent
  | _, _, 0, _, _, .cons related _, here, there => by
    cases here
    cases there
    exact related
  | _, _, _ + 1, _, _, .cons _ rest, here, there => forall₂_get rest here there

theorem forall₂_mem {α β : Type} {R : α → β → Prop} : ∀ {as : List α} {bs : List β}, List.Forall₂ R as bs →
    ∀ {b : β}, b ∈ bs → ∃ a ∈ as, R a b
  | _, _, .nil, b, inside => by cases inside
  | a :: _, _, .cons here rest, b, inside => by
    rcases List.mem_cons.mp inside with rfl | inside
    · exact ⟨a, List.mem_cons_self, here⟩
    · obtain ⟨other, member, related⟩ := forall₂_mem rest inside
      exact ⟨other, List.mem_cons_of_mem a member, related⟩

/-- Related items of three lists, place by place. -/
theorem forall₂_trans {α β γ : Type} {R : α → β → Prop} {S : β → γ → Prop} {T : α → γ → Prop} :
    ∀ {as : List α} {bs : List β} {cs : List γ}, List.Forall₂ R as bs → List.Forall₂ S bs cs →
    (∀ (i : Nat) a b c, as[i]? = some a → bs[i]? = some b → cs[i]? = some c → R a b → S b c → T a c) →
    List.Forall₂ T as cs
  | _, _, _, .nil, .nil, _ => .nil
  | a :: _, b :: _, c :: _, .cons first left, .cons second right, both =>
    .cons (both 0 a b c rfl rfl rfl first second)
      (forall₂_trans left right fun i a b c here there third => both (i + 1) a b c here there third)

/-- One of the items is replaced. -/
theorem forall₂_set {α β : Type} {R : α → β → Prop} : ∀ {as : List α} {bs : List β} {i : Nat} {a : α} {b : β},
    List.Forall₂ R as bs → as[i]? = some a → R a b → List.Forall₂ R as (bs.set i b)
  | _, _, _, _, _, .nil, absent, _ => by cases absent
  | _, _, 0, _, _, .cons _ rest, here, related => by
    cases here
    exact .cons related rest
  | _, _, _ + 1, _, _, .cons first rest, later, related => .cons first (forall₂_set rest later related)

section Interleavings

variable {α : Type}

/-- **The list has the items of the lists**, those of each in its own order. -/
inductive Interleaved : List (List α) → List α → Prop
  | nil {lists : List (List α)} : (∀ list ∈ lists, list = []) → Interleaved lists []
  | snoc {lists : List (List α)} {all list : List α} {i : Nat} (a : α) : Interleaved lists all →
      lists[i]? = some list → Interleaved (lists.set i (list ++ [a])) (all ++ [a])

variable {lists : List (List α)} {all : List α}

theorem Interleaved.perm (shuffled : Interleaved lists all) : all.Perm lists.flatten := by
  induction shuffled with
  | nil empty => rw [List.flatten_eq_nil_iff.mpr empty]
  | @snoc lists all list i a _ at_i ih =>
    obtain ⟨bound, rfl⟩ := List.getElem?_eq_some_iff.mp at_i
    obtain ⟨before, after, split, -, changed⟩ := @List.exists_of_set _ _ (lists[i] ++ [a]) _ bound
    have flat (list : List α) : (before ++ list :: after).flatten = before.flatten ++
      (list ++ after.flatten) := by
      simp
    rw [split, flat] at ih
    rw [changed, flat]
    refine (ih.append_right [a]).trans ?_
    simp only [List.append_assoc]
    exact List.Perm.append_left _ (List.Perm.append_left _ List.perm_append_comm)

/-- An item of the whole is one of a list. -/
theorem Interleaved.mem_iff (shuffled : Interleaved lists all) {a : α} :
    a ∈ all ↔ ∃ list ∈ lists, a ∈ list := by
  rw [shuffled.perm.mem_iff, List.mem_flatten]

/-- A list takes some items more, one after the other. -/
theorem Interleaved.append {list : List α} {i : Nat} (more : List α) (shuffled : Interleaved lists all)
    (at_i : lists[i]? = some list) : Interleaved (lists.set i (list ++ more)) (all ++ more) := by
  induction more generalizing lists all list with
  | nil =>
    obtain ⟨bound, rfl⟩ := List.getElem?_eq_some_iff.mp at_i
    rw [List.append_nil, List.append_nil, List.set_getElem_self]
    exact shuffled
  | cons a more ih =>
    have bound := (List.getElem?_eq_some_iff.mp at_i).1
    have grown := ih (shuffled.snoc a at_i) (List.getElem?_set_self bound)
    rw [List.set_set, List.append_assoc, List.append_assoc] at grown
    exact grown

end Interleavings

end Library
