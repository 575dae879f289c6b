/-
**Which positions of a text its replaced words cover.**

Words are replaced one after the other, each in what the ones before have left. Every letter is traced to the
position of the text that it comes from.

* `Traced`, `trace`, `track` — letters with their positions, and the scan of `replace` on them.
* `Occurs`, `Hit` — a word at a position, and the occurrences that are replaced: those that nothing covers yet
  and no replaced occurrence further left reaches into.
* `masked`, `maskedBy` — the positions that the replaced occurrences cover.
* `Shows` — a traced text shows the positions that are not covered, in their order.
* `shows_track`, `left_trackEach` — the scans leave just the positions that are not covered.
* `maskedBy_of_nested` — if no occurrence overlaps one before it but inside of it, all are covered.
-/

import ValidatorEjector.Library.Replace

namespace Library

variable {α : Type}

/-- A text whose letters come from positions of another one, or are new. -/
abbrev Traced (α : Type) := List (α × Option Nat)

/-- A text, from a position on, with its own positions. -/
def traceFrom : Nat → List α → Traced α
  | _, [] => []
  | p, c :: cs => (c, some p) :: traceFrom (p + 1) cs

/-- A text with its own positions. -/
def trace (text : List α) : Traced α := traceFrom 0 text

/-- New letters. -/
def fresh (r : List α) : Traced α := r.map fun c => (c, none)

@[simp] theorem map_fst_fresh (r : List α) : (fresh r).map Prod.fst = r := by
  unfold fresh
  rw [List.map_map]
  exact List.map_id r

@[simp] theorem map_fst_traceFrom (p : Nat) (text : List α) : (traceFrom p text).map Prod.fst = text := by
  induction text generalizing p with
  | nil => rfl
  | cons c cs ih => rw [traceFrom, List.map_cons, ih]

/-! ### Occurrences -/

/-- The word stands at the position. -/
def Occurs (w text : List α) (p : Nat) : Prop := w <+: text.drop p

/-- **An occurrence that is replaced**, when some positions are covered already. -/
def Hit (w text : List α) (covered : Nat → Prop) (p : Nat) : Prop :=
  Occurs w text p ∧ (∀ i, p ≤ i → i < p + w.length → ¬ covered i) ∧
    ∀ q, q < p → Hit w text covered q → q + w.length ≤ p
termination_by p

/-- The positions that are covered when the word has been replaced. -/
def masked (w text : List α) (covered : Nat → Prop) (i : Nat) : Prop :=
  covered i ∨ ∃ p, Hit w text covered p ∧ p ≤ i ∧ i < p + w.length

/-- The positions that are covered when the words have been replaced. -/
def maskedBy (text : List α) : List (List α) → (Nat → Prop) → Nat → Prop
  | [], covered => covered
  | w :: words, covered => maskedBy text words (masked w text covered)

theorem maskedBy_of_covered {text : List α} (words : List (List α)) {covered : Nat → Prop} {i : Nat}
    (here : covered i) : maskedBy text words covered i := by
  induction words generalizing covered with
  | nil => exact here
  | cons w words ih => exact ih (.inl here)

theorem Occurs.bound {w text : List α} {p : Nat} (filled : w ≠ []) (occurs : Occurs w text p) :
    p + w.length ≤ text.length := by
  have length := occurs.length_le
  have some := List.length_pos_iff.mpr filled
  rw [List.length_drop] at length
  omega

/-! ### Nested occurrences -/

/-- The word overlaps neither itself nor, but inside of its own occurrences, a word after it. -/
structure Nested (text : List α) (words : List (List α)) : Prop where
  itself : ∀ w ∈ words, ∀ p q, Occurs w text p → Occurs w text q → p < q → p + w.length ≤ q
  later : words.Pairwise fun w v => ∀ p q, Occurs w text p → Occurs v text q → q < p + w.length →
    p < q + v.length → p ≤ q ∧ q + v.length ≤ p + w.length

/-- **Nested occurrences are covered**, if what is covered already cuts through none of them. -/
theorem maskedBy_of_uncut {text : List α} : ∀ {words : List (List α)} {covered : Nat → Prop},
    Nested text words →
    (∀ w ∈ words, ∀ p, Occurs w text p → (∀ i, p ≤ i → i < p + w.length → covered i) ∨
      ∀ i, p ≤ i → i < p + w.length → ¬ covered i) →
    ∀ w ∈ words, ∀ p, Occurs w text p → ∀ i, p ≤ i → i < p + w.length → maskedBy text words covered i
  | [], _, _, _, w, listed => by cases listed
  | w :: words, covered, nested, uncut, v, listed => by
    have apart := List.pairwise_cons.mp nested.later
    intro p occurs i above below
    rcases List.mem_cons.mp listed with rfl | later
    · refine maskedBy_of_covered words ?_
      rcases uncut v List.mem_cons_self p occurs with already | clear
      · exact .inl (already i above below)
      · refine .inr ⟨p, ?_, above, below⟩
        rw [Hit]
        refine ⟨occurs, clear, fun q earlier hit => ?_⟩
        rw [Hit] at hit
        exact nested.itself v List.mem_cons_self q p hit.1 occurs earlier
    · have rest : Nested text words :=
        ⟨fun u inside => nested.itself u (List.mem_cons_of_mem w inside), apart.2⟩
      refine maskedBy_of_uncut rest (fun u inside q occurs => ?_) v later p occurs i above below
      rcases uncut u (List.mem_cons_of_mem w inside) q occurs with already | clear
      · exact .inl fun i above below => .inl (already i above below)
      by_cases overlapped : ∃ p, Hit w text covered p ∧ q < p + w.length ∧ p < q + u.length
      · obtain ⟨p, hit, left, right⟩ := overlapped
        have occursW : Occurs w text p := by
          rw [Hit] at hit
          exact hit.1
        obtain ⟨first, last⟩ := apart.1 u inside p q occursW occurs left right
        exact .inl fun i above below => .inr ⟨p, hit, by omega, by omega⟩
      · refine .inr fun i above below => ?_
        rintro (already | ⟨p, hit, first, last⟩)
        · exact clear i above below already
        · exact overlapped ⟨p, hit, by omega, by omega⟩

theorem maskedBy_of_nested {text : List α} {words : List (List α)} (nested : Nested text words)
    {w : List α} (listed : w ∈ words) {p : Nat} (occurs : Occurs w text p) {i : Nat} (above : p ≤ i)
    (below : i < p + w.length) :
    maskedBy text words (fun _ => False) i :=
  maskedBy_of_uncut nested (fun _ _ _ _ => .inr fun _ _ _ => not_false) w listed p occurs i above below

/-! ### What is shown -/

/-- **The traced text shows what is not covered** from a position on; a block of new letters stands for positions
that are. -/
inductive Shows (text r : List α) (covered : Nat → Prop) : Nat → Traced α → Prop
  | done : Shows text r covered text.length []
  | kept {p : Nat} {c : α} {rest : Traced α} (letter : text[p]? = some c) (free : ¬ covered p)
      (tail : Shows text r covered (p + 1) rest) : Shows text r covered p ((c, some p) :: rest)
  | block {p q : Nat} {rest : Traced α} (some : p < q) (bound : q ≤ text.length)
      (all : ∀ i, p ≤ i → i < q → covered i) (tail : Shows text r covered q rest) :
      Shows text r covered p (fresh r ++ rest)

section Shown

variable {w r text : List α} {covered : Nat → Prop} {p : Nat} {traced : Traced α}

theorem shows_traceFrom : ∀ (cs : List α) (p : Nat), text.drop p = cs → p ≤ text.length →
    Shows text r (fun _ => False) p (traceFrom p cs)
  | [], p, rest, bound => by
    have last : p = text.length := le_antisymm bound (List.drop_eq_nil_iff.mp rest)
    subst last
    exact .done
  | c :: cs, p, rest, bound => by
    have letter : text[p]? = some c := by
      rw [← List.head?_drop, rest]
      rfl
    have inside : p < text.length := (List.getElem?_eq_some_iff.mp letter).1
    refine .kept letter not_false (shows_traceFrom cs (p + 1) ?_ inside)
    rw [← List.drop_drop, rest]
    rfl

theorem shows_trace (text : List α) : Shows text r (fun _ => False) 0 (trace text) :=
  shows_traceFrom text 0 rfl (Nat.zero_le _)

/-- **What is left** of a text. -/
theorem Shows.left_iff (view : Shows text r covered p traced) (i : Nat) :
    (∃ c, (c, some i) ∈ traced) ↔ p ≤ i ∧ i < text.length ∧ ¬ covered i := by
  induction view with
  | done =>
    constructor
    · rintro ⟨c, inside⟩
      cases inside
    · rintro ⟨above, below, -⟩
      omega
  | @kept p c rest letter free tail ih =>
    have inside : p < text.length := (List.getElem?_eq_some_iff.mp letter).1
    simp only [List.mem_cons, exists_or, ih, Prod.mk.injEq, Option.some.injEq]
    constructor
    · rintro (⟨_, rfl, rfl⟩ | ⟨above, below, unmasked⟩)
      · exact ⟨le_rfl, inside, free⟩
      · exact ⟨by omega, below, unmasked⟩
    · rintro ⟨above, below, unmasked⟩
      by_cases here : i = p
      · exact .inl ⟨c, rfl, here⟩
      · exact .inr ⟨by omega, below, unmasked⟩
  | @block p q rest some bound all tail ih =>
    have new : ∀ c, (c, Option.some i) ∉ fresh r := by
      intro c inside
      obtain ⟨d, -, same⟩ := List.mem_map.mp inside
      cases same
    simp only [List.mem_append, new, false_or, ih]
    constructor
    · rintro ⟨above, below, unmasked⟩
      exact ⟨by omega, below, unmasked⟩
    · rintro ⟨above, below, unmasked⟩
      refine ⟨?_, below, unmasked⟩
      by_contra before
      exact unmasked (all i above (by omega))

/-- **A word at the front of what is shown** stands in the text, where nothing is covered. -/
theorem Shows.prefix_iff (some : r ≠ []) (view : Shows text r covered p traced)
    (other : ∀ c ∈ w, c ∉ r) :
    w <+: traced.map Prod.fst ↔ Occurs w text p ∧ ∀ i, p ≤ i → i < p + w.length → ¬ covered i := by
  unfold Occurs
  induction w generalizing p traced with
  | nil =>
    refine ⟨fun _ => ⟨List.nil_prefix, fun i above below => ?_⟩, fun _ => List.nil_prefix⟩
    rw [List.length_nil] at below
    omega
  | cons a as ih =>
    cases view with
    | done => simp
    | @kept p c rest letter free tail =>
      have here : text.drop p = c :: text.drop (p + 1) := by
        obtain ⟨bound, rfl⟩ := List.getElem?_eq_some_iff.mp letter
        exact List.drop_eq_getElem_cons bound
      have rest_iff := ih tail fun d inside => other d (List.mem_cons_of_mem a inside)
      rw [List.map_cons, here, List.cons_prefix_cons, List.cons_prefix_cons, rest_iff, and_assoc]
      refine and_congr_right fun _ => and_congr_right fun _ => ?_
      rw [List.length_cons]
      constructor
      · intro later i above below
        by_cases first : i = p
        · exact first ▸ free
        · exact later i (by omega) (by omega)
      · exact fun all i above below => all i (by omega) (by omega)
    | @block p q rest below bound all tail =>
      obtain ⟨x, xs, rfl⟩ := List.exists_cons_of_ne_nil some
      constructor
      · intro front
        have same : a = x := (List.cons_prefix_cons.mp front).1
        exact absurd (same ▸ List.mem_cons_self) (other a List.mem_cons_self)
      · rintro ⟨-, free⟩
        refine absurd (all p le_rfl below) (free p le_rfl ?_)
        rw [List.length_cons]
        omega

/-- Behind such a word the rest is shown. -/
theorem Shows.drop (some : r ≠ []) (view : Shows text r covered p traced) (other : ∀ c ∈ w, c ∉ r)
    (front : w <+: traced.map Prod.fst) :
    Shows text r covered (p + w.length) (traced.drop w.length) := by
  induction w generalizing p traced with
  | nil => exact view
  | cons a as ih =>
    cases view with
    | done => exact absurd (List.prefix_nil.mp front) (List.cons_ne_nil a as)
    | @kept p c rest letter free tail =>
      have later : as <+: rest.map Prod.fst := (List.cons_prefix_cons.mp front).2
      have view := ih tail (fun d inside => other d (List.mem_cons_of_mem a inside)) later
      rw [List.length_cons, show p + (as.length + 1) = p + 1 + as.length by omega]
      exact view
    | @block p q rest below bound all tail =>
      obtain ⟨x, xs, rfl⟩ := List.exists_cons_of_ne_nil some
      have same : a = x := (List.cons_prefix_cons.mp front).1
      exact absurd (same ▸ List.mem_cons_self) (other a List.mem_cons_self)

end Shown

/-! ### The scan -/

variable [DecidableEq α]

/-- The scan of `replaceFrom`. -/
def trackFrom (w r : List α) : Nat → Traced α → Traced α
  | _, [] => []
  | skip + 1, _ :: cs => trackFrom w r skip cs
  | 0, c :: cs =>
    if w <+: (c :: cs).map Prod.fst then fresh r ++ trackFrom w r (w.length - 1) cs
    else c :: trackFrom w r 0 cs

/-- Every occurrence of `w` replaced by `r`. -/
def track (w r : List α) (text : Traced α) : Traced α := trackFrom w r 0 text

/-- The words replaced one after the other. -/
def trackEach (words : List (List α)) (r : List α) (text : Traced α) : Traced α :=
  words.foldl (fun acc w => track w r acc) text

section Scan

variable {w r : List α}

theorem trackFrom_skip (skip : Nat) (text : Traced α) :
    trackFrom w r skip text = track w r (text.drop skip) := by
  induction text generalizing skip with
  | nil => cases skip <;> rfl
  | cons c cs ih =>
    cases skip with
    | zero => rfl
    | succ skip => exact ih skip

theorem track_hit (filled : w ≠ []) {text : Traced α} (here : w <+: text.map Prod.fst) :
    track w r text = fresh r ++ track w r (text.drop w.length) := by
  obtain ⟨a, as, rfl⟩ := List.exists_cons_of_ne_nil filled
  cases text with
  | nil => exact absurd (List.prefix_nil.mp here) (List.cons_ne_nil a as)
  | cons c cs =>
    show trackFrom _ r 0 (c :: cs) = _
    rw [trackFrom, if_pos here, trackFrom_skip]
    rfl

theorem track_cons {c : α × Option Nat} {cs : Traced α} (none : ¬ w <+: (c :: cs).map Prod.fst) :
    track w r (c :: cs) = c :: track w r cs := if_neg none

/-- No occurrence starts in new letters that the word does not have. -/
theorem track_fresh (filled : w ≠ []) {new : List α} (other : ∀ c ∈ w, c ∉ new) (text : Traced α) :
    track w r (fresh new ++ text) = fresh new ++ track w r text := by
  obtain ⟨a, as, rfl⟩ := List.exists_cons_of_ne_nil filled
  induction new with
  | nil => rfl
  | cons c cs ih =>
    have none : ¬ a :: as <+: ((c, none) :: (fresh cs ++ text)).map Prod.fst := by
      intro front
      have same : a = c := (List.cons_prefix_cons.mp front).1
      exact other a List.mem_cons_self (same ▸ List.mem_cons_self)
    show track _ r ((c, Option.none) :: (fresh cs ++ text)) = _
    rw [track_cons none, ih fun d inside later => other d inside (List.mem_cons_of_mem c later)]
    rfl

/-- **The scan covers the occurrences that are hit**, from a position on into which no hit reaches. -/
theorem shows_track {text : List α} {covered : Nat → Prop} (filled : w ≠ []) (some : r ≠ [])
    (other : ∀ c ∈ w, c ∉ r) {p : Nat} {traced : Traced α} (view : Shows text r covered p traced)
    (before : ∀ q, q < p → Hit w text covered q → q + w.length ≤ p) :
    Shows text r (masked w text covered) p (track w r traced) := by
  have length : 0 < w.length := List.length_pos_iff.mpr filled
  induction size : traced.length using Nat.strong_induction_on generalizing p traced with
  | _ n ih =>
    cases view with
    | done => exact .done
    | @kept p c rest letter free tail =>
      have front := (Shows.kept letter free tail).prefix_iff some other
      by_cases here : w <+: ((c, Option.some p) :: rest).map Prod.fst
      · obtain ⟨occurs, clear⟩ := front.mp here
        have hit : Hit w text covered p := by
          rw [Hit]
          exact ⟨occurs, clear, before⟩
        have behind := (Shows.kept letter free tail).drop some other here
        rw [track_hit filled here]
        refine .block (Nat.lt_add_of_pos_right length) (occurs.bound filled)
          (fun i above below => .inr ⟨p, hit, above, below⟩)
            (ih _ ?_ behind (fun q earlier struck => ?_) rfl)
        · rw [← size, List.length_drop, List.length_cons]
          omega
        · -- no occurrence that the hit reaches into is one
          by_contra reaches
          have later : p < q := by
            rcases Nat.lt_trichotomy p q with later | same | sooner
            · exact later
            · omega
            · have := before q sooner struck
              omega
          rw [Hit] at struck
          have := struck.2.2 p later hit
          omega
      · have none : ¬ Hit w text covered p := by
          intro hit
          rw [Hit] at hit
          exact here (front.mpr ⟨hit.1, hit.2.1⟩)
        have uncovered : ¬ masked w text covered p := by
          rintro (already | ⟨q, hit, above, below⟩)
          · exact free already
          · rcases Nat.lt_or_eq_of_le above with sooner | same
            · have := before q sooner hit
              omega
            · exact none (same ▸ hit)
        rw [track_cons here]
        refine .kept letter uncovered (ih _ ?_ tail (fun q earlier hit => ?_) rfl)
        · rw [← size, List.length_cons]
          omega
        · rcases Nat.lt_or_eq_of_le (Nat.le_of_lt_succ earlier) with sooner | same
          · have := before q sooner hit
            omega
          · exact absurd (same ▸ hit) none
    | @block p q rest below bound all tail =>
      rw [track_fresh filled other]
      refine .block below bound (fun i above under => .inl (all i above under))
        (ih _ ?_ tail (fun q' earlier hit => ?_) rfl)
      · rw [← size, List.length_append]
        have := List.length_pos_iff.mpr some
        unfold fresh
        rw [List.length_map]
        omega
      · by_cases sooner : q' < p
        · have := before q' sooner hit
          omega
        · rw [Hit] at hit
          exact absurd (all q' (by omega) earlier) (hit.2.1 q' le_rfl (by omega))

/-- The words, one after the other. -/
theorem shows_trackEach {text : List α} (some : r ≠ []) {words : List (List α)}
    (filled : ∀ w ∈ words, w ≠ []) (other : ∀ w ∈ words, ∀ c ∈ w, c ∉ r) {covered : Nat → Prop}
    {traced : Traced α} (view : Shows text r covered 0 traced) :
    Shows text r (maskedBy text words covered) 0 (trackEach words r traced) := by
  induction words generalizing covered traced with
  | nil => exact view
  | cons w words ih =>
    rw [List.forall_mem_cons] at filled other
    exact ih filled.2 other.2 (shows_track filled.1 some other.1 view fun q below =>
      absurd below (Nat.not_lt_zero q))

/-- **What is left** when the words have been replaced: the positions that they do not cover. -/
theorem left_trackEach {text : List α} (some : r ≠ []) {words : List (List α)}
    (filled : ∀ w ∈ words, w ≠ []) (other : ∀ w ∈ words, ∀ c ∈ w, c ∉ r) (i : Nat) :
      (∃ c, (c, Option.some i) ∈ trackEach words r (trace text)) ↔
      i < text.length ∧ ¬ maskedBy text words (fun _ => False) i := by
  rw [(shows_trackEach some filled other (shows_trace text)).left_iff]
  exact and_iff_right (Nat.zero_le i)

end Scan

end Library
