/-
**Lists of endpoints.**

An entry is what stands between two commas, without white space around it. Empty entries are dropped, and then
the slashes at the end of the others: what that leaves is not looked at again.

* `entriesOf` — the entries of a text; `Names` — one of them names an endpoint.
* `Normal` — an endpoint without commas, slashes at its end and white space around it.
* `Normalises` — the list is made of such endpoints, and is its own normal form.
* `Clean` — no entry has only white space, or nothing, before the slashes at its end.
* `normalises_iff` — that is when the list is normalised.
-/

import ValidatorEjector.Validator

namespace ValidatorEjector

open Js

namespace Validator

/-! ### Entries -/

/-- A separator is in no part. -/
theorem not_mem_of_mem_splitOn {α : Type} [DecidableEq α] {a : α} : ∀ {as part : List α},
    part ∈ as.splitOn a → a ∉ part
  | [], part, inside => by
    rw [List.splitOn_nil, List.mem_singleton] at inside
    rw [inside]
    exact List.not_mem_nil
  | b :: as, part, inside => by
    rw [List.splitOn_cons_eq_if_modifyHead] at inside
    by_cases same : b = a
    · rw [if_pos (beq_iff_eq.mpr same), List.mem_cons] at inside
      rcases inside with rfl | later
      · exact List.not_mem_nil
      · exact not_mem_of_mem_splitOn later
    · rw [if_neg (by simpa using same)] at inside
      obtain ⟨first, rest, parts⟩ := List.exists_cons_of_ne_nil (List.splitOn_ne_nil a as)
      rw [parts, List.modifyHead_cons, List.mem_cons] at inside
      rcases inside with rfl | later
      · have free : a ∉ first := not_mem_of_mem_splitOn (by rw [parts]; exact List.mem_cons_self)
        rw [List.mem_cons, not_or]
        exact ⟨fun other => same other.symm, free⟩
      · exact not_mem_of_mem_splitOn (by rw [parts]; exact List.mem_cons_of_mem first later)

/-- The texts between commas, without white space around them. -/
def entriesOf (input : String) : List (List Char) := (input.toList.splitOn ',').map trim

/-- An entry that has more than slashes and white space names an endpoint. -/
def Names (input : String) : Prop :=
  ∃ entry ∈ entriesOf input, ∃ c ∈ entry, c ≠ '/' ∧ isWhiteSpace c = false

/-- **A normal endpoint**: not empty, no comma, no slash at its end, no white space around it. -/
structure Normal (endpoint : String) : Prop where
  filled : endpoint ≠ ""
  comma : ',' ∉ endpoint.toList
  slash : endpoint.toList.getLast? ≠ some '/'
  trimmed : Trimmed endpoint.toList

/-- **The list is normalised**: it is not empty, its endpoints are normal, and it is its own normal form; a
text without an endpoint is rejected. -/
structure Normalises (input : String) (errorMessage : Option String) : Prop where
  nonempty : ∀ items, url_list (some (.string input)) errorMessage = .ok items → items ≠ []
  normal : ∀ items, url_list (some (.string input)) errorMessage = .ok items → ∀ e ∈ items, Normal e
  rejects : ¬ Names input → ∀ items, url_list (some (.string input)) errorMessage ≠ .ok items
  idempotent : ∀ items, url_list (some (.string input)) errorMessage = .ok items →
    url_list (some (.string (",".intercalate items))) errorMessage = .ok items

/-- **A character that is no white space** stands before the slashes at the end of an entry. -/
def Clean (input : String) : Prop :=
  ∀ entry ∈ entriesOf input, ∀ before n, entry = before ++ List.replicate (n + 1) '/' →
    ∃ c ∈ before.getLast?, isWhiteSpace c = false

/-- What is made of an entry. -/
def endpointOf (entry : List Char) : String := String.ofList (entry.rdropWhile (· = '/'))

theorem normalizeUrlList_eq (input : String) : normalizeUrlList input =
    ((entriesOf input).filter fun entry => 0 < entry.length).map endpointOf := by
  unfold normalizeUrlList
  rw [List.map_map]
  rfl

theorem mem_normalizeUrlList {input endpoint : String} : endpoint ∈ normalizeUrlList input ↔
    ∃ entry ∈ entriesOf input, entry ≠ [] ∧ endpoint = endpointOf entry := by
  rw [normalizeUrlList_eq, List.mem_map]
  refine exists_congr fun entry => ?_
  rw [List.mem_filter, decide_eq_true_iff, List.length_pos_iff, and_assoc, eq_comm (b := endpoint)]

theorem url_list_ok {input : String} {errorMessage : Option String} {items : List String} :
    url_list (some (.string input)) errorMessage = .ok items ↔
      items = normalizeUrlList input ∧ items ≠ [] := by
  have read : str (some (.string input)) errorMessage = .ok input := str_ok.mpr rfl
  unfold url_list make
  dsimp only
  rw [read]
  show (if normalizeUrlList input = [] then _ else _) = _ ↔ _
  by_cases empty : normalizeUrlList input = []
  · rw [if_pos empty, empty]
    constructor
    · intro same
      cases same
    · rintro ⟨rfl, other⟩
      exact absurd rfl other
  · rw [if_neg empty, Except.ok.injEq, eq_comm]
    exact ⟨fun same => ⟨same, same ▸ empty⟩, And.left⟩

/-! ### One entry -/

section Entry

variable {input : String} {entry : List Char}

theorem trimmed_of_mem (inside : entry ∈ entriesOf input) : Trimmed entry := by
  obtain ⟨part, -, rfl⟩ := List.mem_map.mp inside
  exact trimmed_trim part

theorem comma_of_mem (inside : entry ∈ entriesOf input) : ',' ∉ entry := by
  obtain ⟨part, split, rfl⟩ := List.mem_map.mp inside
  exact fun comma => not_mem_of_mem_splitOn split (mem_of_mem_trim comma)

theorem rdropWhile_slashes (before : List Char) (n : Nat) :
    (before ++ List.replicate n '/').rdropWhile (· = '/') = before.rdropWhile (· = '/') := by
  induction n with
  | zero => rw [List.replicate_zero, List.append_nil]
  | succ n ih =>
    rw [List.replicate_succ', ← List.append_assoc, List.rdropWhile_concat_pos _ _ _ (by decide), ih]

/-- The slashes at the end of an entry. -/
theorem exists_slashes (entry : List Char) :
    ∃ n, entry = entry.rdropWhile (· = '/') ++ List.replicate n '/' := by
  refine ⟨(entry.rtakeWhile (· = '/')).length, ?_⟩
  have slashes : entry.rtakeWhile (· = '/') =
      List.replicate (entry.rtakeWhile (· = '/')).length '/' :=
    List.eq_replicate_of_mem fun c inside => by simpa using List.mem_rtakeWhile_imp inside
  rw [← slashes, List.rdropWhile_append_rtakeWhile]

/-- **What is made of an entry is normal** exactly when the entry is clean. -/
theorem normal_endpointOf (inside : entry ∈ entriesOf input) (filled : entry ≠ []) :
    Normal (endpointOf entry) ↔
      ∀ before n, entry = before ++ List.replicate (n + 1) '/' →
        ∃ c ∈ before.getLast?, isWhiteSpace c = false := by
  have trimmed := trimmed_of_mem inside
  constructor
  · intro normal before n split
    have filled := normal.filled
    have last := normal.trimmed.last
    unfold endpointOf at filled last
    rw [String.toList_ofList, split, rdropWhile_slashes] at last
    rw [split, rdropWhile_slashes] at filled
    rcases List.eq_nil_or_concat before with rfl | ⟨start, c, rfl⟩
    · exact absurd rfl filled
    · rw [List.concat_eq_append] at last ⊢
      refine ⟨c, List.getLast?_concat, ?_⟩
      by_cases slash : c = '/'
      · rw [slash]
        decide
      · rw [List.rdropWhile_concat_neg _ _ _ (by simpa using slash)] at last
        exact last c List.getLast?_concat
  · intro clean
    obtain ⟨n, split⟩ := exists_slashes entry
    unfold endpointOf
    generalize stripped : entry.rdropWhile (· = '/') = kept at split
    -- the end of what is kept is the end of the entry, or what stands before its slashes
    have last : ∃ c ∈ kept.getLast?, isWhiteSpace c = false := by
      cases n with
      | zero =>
        rw [List.replicate_zero, List.append_nil] at split
        rw [← split]
        refine ⟨_, List.getLast?_eq_getLast_of_ne_nil filled, ?_⟩
        exact trimmed.last _ (List.getLast?_eq_getLast_of_ne_nil filled)
      | succ n => exact clean kept n split
    obtain ⟨c, ends, solid⟩ := last
    have nonempty : kept ≠ [] := by
      rintro rfl
      cases ends
    refine ⟨?_, ?_, ?_, ?_⟩
    · rw [Ne, String.ofList_eq_empty_iff]
      exact nonempty
    · rw [String.toList_ofList]
      intro comma
      refine comma_of_mem inside ?_
      rw [split]
      exact List.mem_append_left _ comma
    · rw [String.toList_ofList]
      intro slash
      have none := List.rdropWhile_last_not (fun c => decide (c = '/')) entry (stripped ▸ nonempty)
      simp only [stripped] at none
      rw [List.getLast?_eq_getLast_of_ne_nil nonempty] at slash
      rw [Option.some.inj slash] at none
      exact none rfl
    · rw [String.toList_ofList]
      refine ⟨fun first start => trimmed.head first ?_, fun other same => ?_⟩
      · rw [split, List.head?_append, Option.mem_def.mp start]
        rfl
      · rw [Option.mem_def.mp ends] at same
        cases same
        exact solid

end Entry

/-! ### The list -/

section List

variable {items : List String}

/-- A list of normal endpoints is its own normal form. -/
theorem normalizeUrlList_of_normal (normal : ∀ e ∈ items, Normal e) (nonempty : items ≠ []) :
    normalizeUrlList (",".intercalate items) = items := by
  have parts : (",".intercalate items).toList.splitOn ',' = items.map String.toList := by
    rw [String.toList_intercalate]
    refine List.splitOn_intercalate ',' (fun part inside => ?_) (by simpa using nonempty)
    obtain ⟨e, listed, rfl⟩ := List.mem_map.mp inside
    exact (normal e listed).comma
  have entries : entriesOf (",".intercalate items) = items.map String.toList := by
    unfold entriesOf
    rw [parts, List.map_map]
    exact List.map_congr_left fun e listed => trim_of_trimmed (normal e listed).trimmed
  have kept : (items.map String.toList).filter (fun entry => 0 < entry.length) = items.map String.toList := by
    refine List.filter_eq_self.mpr fun entry inside => ?_
    obtain ⟨e, listed, rfl⟩ := List.mem_map.mp inside
    have filled : e.toList ≠ [] := fun empty =>
      (normal e listed).filled (String.toList_eq_nil_iff.mp empty)
    simpa [List.length_pos_iff] using filled
  rw [normalizeUrlList_eq, entries, kept, List.map_map]
  refine (List.map_congr_left fun e listed => ?_).trans (List.map_id items)
  have same : e.toList.rdropWhile (· = '/') = e.toList := by
    refine List.rdropWhile_eq_self_iff.mpr fun filled slash => (normal e listed).slash ?_
    rw [List.getLast?_eq_getLast_of_ne_nil filled, of_decide_eq_true slash]
  show endpointOf e.toList = e
  unfold endpointOf
  rw [same, String.ofList_toList]

/-- A clean text without an endpoint has no entries to keep. -/
theorem names_of_clean {input : String} (clean : Clean input) {entry : List Char}
    (inside : entry ∈ entriesOf input) (filled : entry ≠ []) : Names input := by
  have normal := (normal_endpointOf inside filled).mpr (clean entry inside)
  have kept : entry.rdropWhile (· = '/') ≠ [] := fun empty => normal.filled (by
    unfold endpointOf
    rw [empty])
  have ends := List.getLast?_eq_getLast_of_ne_nil kept
  have last := normal.trimmed.last
  unfold endpointOf at last
  rw [String.toList_ofList] at last
  refine ⟨entry, inside, _, (List.rdropWhile_prefix _ _).subset (List.getLast_mem kept), ?_, last _ ends⟩
  simpa using List.rdropWhile_last_not (fun c => decide (c = '/')) entry kept

/-- **When the list of endpoints is normalised.** -/
theorem normalises_iff (input : String) (errorMessage : Option String) :
    Normalises input errorMessage ↔ Clean input := by
  constructor
  · intro normalises entry inside before n split
    have filled : entry ≠ [] := by
      rw [split, List.replicate_succ']
      simp
    have listed : endpointOf entry ∈ normalizeUrlList input :=
      mem_normalizeUrlList.mpr ⟨entry, inside, filled, rfl⟩
    have accepted : url_list (some (.string input)) errorMessage = .ok (normalizeUrlList input) :=
      url_list_ok.mpr ⟨rfl, List.ne_nil_of_mem listed⟩
    exact (normal_endpointOf inside filled).mp (normalises.normal _ accepted _ listed) before n split
  · intro clean
    have normal : ∀ e ∈ normalizeUrlList input, Normal e := by
      intro e listed
      obtain ⟨entry, inside, filled, rfl⟩ := mem_normalizeUrlList.mp listed
      exact (normal_endpointOf inside filled).mpr (clean entry inside)
    refine ⟨?_, ?_, ?_, ?_⟩
    · exact fun items accepted => (url_list_ok.mp accepted).2
    · intro items accepted
      rw [(url_list_ok.mp accepted).1]
      exact normal
    · intro none items accepted
      obtain ⟨rfl, nonempty⟩ := url_list_ok.mp accepted
      obtain ⟨e, listed⟩ := List.exists_mem_of_ne_nil _ nonempty
      obtain ⟨entry, inside, filled, -⟩ := mem_normalizeUrlList.mp listed
      exact none (names_of_clean clean inside filled)
    · intro items accepted
      obtain ⟨rfl, nonempty⟩ := url_list_ok.mp accepted
      exact url_list_ok.mpr ⟨(normalizeUrlList_of_normal normal nonempty).symm, nonempty⟩

/-- **A slash alone is an endpoint that is empty.** -/
theorem not_normalises : ¬ ∀ input errorMessage, Normalises input errorMessage := by
  intro claim
  have accepted : url_list (some (.string "/")) none = .ok [""] :=
    url_list_ok.mpr ⟨by decide, by decide⟩
  exact ((claim "/" none).normal _ accepted "" List.mem_cons_self).filled rfl

end List

end Validator

end ValidatorEjector
