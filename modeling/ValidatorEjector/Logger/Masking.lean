/-
**What the sanitizer leaves of a secret.**

Every character of a sanitized text is traced to the position of the message it comes from. Secrets are replaced
one after the other, so an occurrence that is cut by an earlier replacement is not found any more.

* `trackSubstitution`, `trackAllFrom` — `replaceAll` on traced texts.
* `Sanitizer.trace` — the sanitized text, traced; `map_fst_trace` — it is the sanitized text.
* `Masks` — no position inside of a secret is left.
* `Reaches` — the occurrences that are replaced cover all others.
* `masks_iff` — that is what it takes.
-/

import ValidatorEjector.Config.Service
import ValidatorEjector.Library.Masking
import ValidatorEjector.Logger.Printer

namespace ValidatorEjector

open Js Library Library.Program

/-! ### Traces -/

/-- A replacement template filled in. -/
def trackSubstitution (matched before after : Traced Char) : List Char → Traced Char
  | '$' :: '$' :: rest => ('$', none) :: trackSubstitution matched before after rest
  | '$' :: '&' :: rest => matched ++ trackSubstitution matched before after rest
  | '$' :: '\x60' :: rest => before ++ trackSubstitution matched before after rest
  | '$' :: '\x27' :: rest => after ++ trackSubstitution matched before after rest
  | c :: rest => (c, none) :: trackSubstitution matched before after rest
  | [] => []

/-- The scan of `replaceAllFrom`. -/
def trackAllFrom (search template : List Char) : Traced Char → Nat → Traced Char → Traced Char
  | _, _, [] => []
  | before, skip + 1, c :: cs => trackAllFrom search template (before ++ [c]) skip cs
  | before, 0, c :: cs =>
    if search <+: (c :: cs).map Prod.fst then
      trackSubstitution ((c :: cs).take search.length) before ((c :: cs).drop search.length) template ++
        trackAllFrom search template (before ++ [c]) (search.length - 1) cs
    else c :: trackAllFrom search template (before ++ [c]) 0 cs

theorem map_fst_trackSubstitution (matched before after : Traced Char) (template : List Char) :
    (trackSubstitution matched before after template).map Prod.fst =
      substitution (matched.map Prod.fst) (before.map Prod.fst) (after.map Prod.fst) template := by
  induction template using substitution.induct with
  | case1 rest ih => rw [trackSubstitution, substitution, List.map_cons, ih]
  | case2 rest ih => rw [trackSubstitution, substitution, List.map_append, ih]
  | case3 rest ih => rw [trackSubstitution, substitution, List.map_append, ih]
  | case4 rest ih => rw [trackSubstitution, substitution, List.map_append, ih]
  | case5 c rest _ _ _ _ ih =>
    rw [trackSubstitution, substitution, List.map_cons, ih]
    all_goals assumption
  | case6 => rfl

theorem map_fst_trackAllFrom (search template : List Char) : ∀ (cs before : Traced Char) (skip : Nat),
    (trackAllFrom search template before skip cs).map Prod.fst =
      replaceAllFrom search template (before.map Prod.fst) skip (cs.map Prod.fst)
  | [], before, skip => by cases skip <;> rfl
  | c :: cs, before, skip + 1 => by
    rw [trackAllFrom, List.map_cons, replaceAllFrom, map_fst_trackAllFrom, List.map_append]
    rfl
  | c :: cs, before, 0 => by
    rw [trackAllFrom, List.map_cons, replaceAllFrom, ← List.map_cons]
    by_cases here : search <+: (c :: cs).map Prod.fst
    · have matched : ((c :: cs).take search.length).map Prod.fst = search := by
        rw [List.map_take]
        exact (List.prefix_iff_eq_take.mp here).symm
      rw [if_pos here, if_pos here, List.map_append, map_fst_trackSubstitution, matched, List.map_drop,
        map_fst_trackAllFrom, List.map_append]
      rfl
    · rw [if_neg here, if_neg here, List.map_cons, map_fst_trackAllFrom, List.map_append]
      rfl

/-- A template that refers to no text inserts new characters. -/
theorem trackSubstitution_of_inserted {template text : List Char}
    (fixed : inserted template = some text) (matched before after : Traced Char) :
    trackSubstitution matched before after template =
      fresh text := by
  induction template using inserted.induct generalizing text with
  | case1 rest ih =>
    obtain ⟨tail, eq, rfl⟩ := Option.map_eq_some_iff.mp fixed
    rw [trackSubstitution, ih eq]
    rfl
  | case2 rest => cases fixed
  | case3 rest => cases fixed
  | case4 rest => cases fixed
  | case5 c rest _ _ _ _ ih =>
    rw [inserted] at fixed
    · obtain ⟨tail, eq, rfl⟩ := Option.map_eq_some_iff.mp fixed
      rw [trackSubstitution, ih eq]
      · rfl
      all_goals assumption
    all_goals assumption
  | case6 =>
    cases fixed
    rfl

theorem trackAllFrom_of_inserted {template text : List Char} (fixed : inserted template = some text)
    (search : List Char) : ∀ (cs before : Traced Char) (skip : Nat),
    trackAllFrom search template before skip cs = trackFrom search text skip cs
  | [], before, skip => by cases skip <;> rfl
  | c :: cs, before, skip + 1 => by
    rw [trackAllFrom, trackFrom, trackAllFrom_of_inserted fixed]
  | c :: cs, before, 0 => by
    rw [trackAllFrom, trackFrom, trackAllFrom_of_inserted fixed, trackAllFrom_of_inserted fixed,
      trackSubstitution_of_inserted fixed]

/-- The characters that a template inserts are its own. -/
theorem mem_of_inserted {template text : List Char} (fixed : inserted template = some text) {c : Char}
    (inside : c ∈ text) : c ∈ template := by
  induction template using inserted.induct generalizing text with
  | case1 rest ih =>
    obtain ⟨tail, eq, rfl⟩ := Option.map_eq_some_iff.mp fixed
    rcases List.mem_cons.mp inside with rfl | later
    · exact List.mem_cons_self
    · exact List.mem_cons_of_mem _ (List.mem_cons_of_mem _ (ih eq later))
  | case2 rest => cases fixed
  | case3 rest => cases fixed
  | case4 rest => cases fixed
  | case5 d rest _ _ _ _ ih =>
    rw [inserted] at fixed
    · obtain ⟨tail, eq, rfl⟩ := Option.map_eq_some_iff.mp fixed
      rcases List.mem_cons.mp inside with rfl | later
      · exact List.mem_cons_self
      · exact List.mem_cons_of_mem _ (ih eq later)
    all_goals assumption
  | case6 =>
    cases fixed
    cases inside

/-- A template that is not empty inserts something. -/
theorem inserted_ne_nil {template : List Char} (filled : template ≠ []) :
    inserted template ≠ some [] := by
  intro fixed
  induction template using inserted.induct with
  | case1 rest =>
    obtain ⟨tail, -, more⟩ := Option.map_eq_some_iff.mp fixed
    cases more
  | case2 rest => cases fixed
  | case3 rest => cases fixed
  | case4 rest => cases fixed
  | case5 c rest =>
    rw [inserted] at fixed
    · obtain ⟨tail, -, more⟩ := Option.map_eq_some_iff.mp fixed
      cases more
    all_goals assumption
  | case6 => exact filled rfl

namespace Sanitizer

variable (z : Sanitizer) (input : String)

/-- The sanitized text, traced to the message. -/
def trace : Traced Char :=
  z.secrets.foldl (fun acc secret => trackAllFrom secret.toList z.replacer.toList [] 0 acc)
    (Library.trace input.toList)

/-- **A position of the message is left** in the sanitized text. -/
def Left (i : Nat) : Prop := ∃ c, (c, some i) ∈ z.trace input

/-- **No position inside of a secret is left.** -/
def Masks : Prop := ∀ s ∈ z.secrets, ∀ p, Occurs s.toList input.toList p →
  ∀ i, p ≤ i → i < p + s.toList.length → ¬ z.Left input i

/-- **The occurrences that are replaced cover all others**: secret by secret, from left to right, an
occurrence is replaced if none that was replaced before overlaps it. -/
def Reaches : Prop := ∀ s ∈ z.secrets, ∀ p, Occurs s.toList input.toList p →
  ∀ i, p ≤ i → i < p + s.toList.length →
    maskedBy input.toList (z.secrets.map String.toList) (fun _ => False) i

variable {z input}

/-- **The trace is one of the sanitized text.** -/
theorem map_fst_trace (filled : ∀ s ∈ z.secrets, s ≠ "") :
    (z.trace input).map Prod.fst = (sanitize input z).toList := by
  obtain ⟨secrets, replacer⟩ := z
  unfold trace sanitize
  dsimp only at filled ⊢
  have start : (Library.trace input.toList).map Prod.fst = input.toList := map_fst_traceFrom 0 _
  revert start
  generalize Library.trace input.toList = traced
  induction secrets generalizing input traced with
  | nil => exact id
  | cons s secrets ih =>
    intro start
    rw [List.forall_mem_cons] at filled
    have next : (trackAllFrom s.toList replacer.toList [] 0 traced).map Prod.fst =
        (replaceAll input s replacer).toList := by
      rw [map_fst_trackAllFrom, start, replaceAll, if_neg filled.1, String.toList_ofList]
      rfl
    exact ih filled.2 _ next

/-- The trace of a replacer that refers to no text. -/
theorem trace_of_inserted {text : List Char} (fixed : inserted z.replacer.toList = some text) :
    z.trace input = trackEach (z.secrets.map String.toList) text (Library.trace input.toList) := by
  obtain ⟨secrets, replacer⟩ := z
  unfold trace trackEach
  dsimp only at fixed ⊢
  rw [List.foldl_map]
  congr 1
  funext acc secret
  exact trackAllFrom_of_inserted fixed secret.toList acc [] 0

/-- **When no position inside of a secret is left.** The replacer is not empty, refers to no text and shares no
character with a secret. -/
theorem masks_iff {text : List Char} (filled : ∀ s ∈ z.secrets, s ≠ "")
    (other : ∀ s ∈ z.secrets, ∀ c ∈ s.toList, c ∉ z.replacer.toList) (some : z.replacer ≠ "")
    (fixed : inserted z.replacer.toList = Option.some text) : z.Masks input ↔ z.Reaches input := by
  have words : ∀ w ∈ z.secrets.map String.toList, w ≠ [] := by
    intro w listed
    obtain ⟨s, secret, rfl⟩ := List.mem_map.mp listed
    exact fun empty => filled s secret (String.toList_eq_nil_iff.mp empty)
  have apart : ∀ w ∈ z.secrets.map String.toList, ∀ c ∈ w, c ∉ text := by
    intro w listed c inside new
    obtain ⟨s, secret, rfl⟩ := List.mem_map.mp listed
    exact other s secret c inside (mem_of_inserted fixed new)
  have new : text ≠ [] := by
    rintro rfl
    exact inserted_ne_nil (fun empty => some (String.toList_eq_nil_iff.mp empty)) fixed
  have left (i : Nat) : z.Left input i ↔ i < input.toList.length ∧
      ¬ maskedBy input.toList (z.secrets.map String.toList) (fun _ => False) i := by
    unfold Left
    rw [trace_of_inserted fixed]
    exact left_trackEach new words apart i
  unfold Masks Reaches
  refine forall₄_congr fun s secret p occurs => forall₃_congr fun i above below => ?_
  have bound := occurs.bound fun empty => filled s secret (String.toList_eq_nil_iff.mp empty)
  rw [left, not_and, not_not]
  exact forall_prop_of_true (by omega)

/-- Nested secrets are masked. -/
theorem reaches_of_nested (nested : Nested input.toList (z.secrets.map String.toList)) :
    z.Reaches input :=
  fun _ secret _ occurs _ above below =>
    maskedBy_of_nested nested (List.mem_map_of_mem secret) occurs above below

end Sanitizer

/-! ### An endpoint with a key -/

namespace Endpoints

/-- Two endpoints of one provider, the first without a key. -/
def host : Host where
  env name := if name = "EXECUTION_NODE" then some "https://rpc.io,https://rpc.io/KEY" else none
  readFileSync _ := none

/-- The secrets of the endpoints. -/
def z : Sanitizer :=
  ⟨["https://rpc.io,https://rpc.io/KEY", "https://rpc.io", "https://rpc.io/KEY"], "*"⟩

/-- The same endpoints the other way round. -/
def reordered : Sanitizer := ⟨["https://rpc.io/KEY", "https://rpc.io"], "*"⟩

theorem not_mem_star {z : Sanitizer} (star : z.replacer = "*")
    (other : ∀ s ∈ z.secrets, '*' ∉ s.toList) :
    ∀ s ∈ z.secrets, ∀ c ∈ s.toList, c ∉ z.replacer.toList := by
  rw [star]
  intro s listed c inside replaced
  rw [List.mem_singleton.mp replaced] at inside
  exact other s listed inside

theorem masks_reordered : reordered.Masks "https://rpc.io/KEY" := by
  have fixed : inserted reordered.replacer.toList = some ['*'] := rfl
  have only : ∀ w ∈ reordered.secrets.map String.toList, ∀ p, Occurs w "https://rpc.io/KEY".toList p →
      p = 0 := by
    intro w listed p occurs
    have filled : ∀ w ∈ reordered.secrets.map String.toList, w ≠ [] := by decide
    have long : ∀ w ∈ reordered.secrets.map String.toList, 14 ≤ w.length := by decide
    have bound : p + w.length ≤ 18 := occurs.bound (filled w listed)
    have elsewhere : ∀ w ∈ reordered.secrets.map String.toList, ∀ p < 5,
        w.isPrefixOf ("https://rpc.io/KEY".toList.drop p) = true → p = 0 := by decide
    have := long w listed
    exact elsewhere w listed p (by omega) (List.isPrefixOf_iff_prefix.mpr occurs)
  refine (Sanitizer.masks_iff (by decide) (not_mem_star rfl (by decide)) (by decide) fixed).mpr
    (Sanitizer.reaches_of_nested ⟨?_, ?_⟩)
  · intro w listed p q first second before
    have := only w listed q second
    omega
  · refine List.pairwise_pair.mpr fun p q first second _ _ => ?_
    rw [only _ (by decide) p first, only _ (by decide) q second]
    decide

/-- **The key is left**, since the endpoint without it is replaced first. -/
theorem not_masks : host.resolveLoggerSecretValues "EXECUTION_NODE" = .ok z.secrets ∧
    (∀ s ∈ z.secrets, s ≠ "") ∧ (∀ s ∈ z.secrets, ∀ c ∈ s.toList, c ∉ z.replacer.toList) ∧
    ¬ z.Masks "https://rpc.io/KEY" := by
  refine ⟨?_, by decide, not_mem_star rfl (by decide), fun masks => ?_⟩
  · have read : host.envOrFile "EXECUTION_NODE" = .ok (some "https://rpc.io,https://rpc.io/KEY") := rfl
    have endpoints : Validator.normalizeUrlList "https://rpc.io,https://rpc.io/KEY" =
        ["https://rpc.io", "https://rpc.io/KEY"] := by decide +kernel
    have listed : "EXECUTION_NODE" ∈ Host.LOGGER_SECRET_URL_LIST_ENV_VARS := by decide
    have set : (some "https://rpc.io,https://rpc.io/KEY").filter (· ≠ "") =
        some "https://rpc.io,https://rpc.io/KEY" := by decide
    unfold Host.resolveLoggerSecretValues
    rw [read]
    refine except_bind_ok.mpr ⟨_, rfl, ?_⟩
    rw [set]
    refine (if_pos listed).trans ?_
    rw [endpoints]
    rfl
  · refine masks "https://rpc.io/KEY" (by decide) 0 (List.isPrefixOf_iff_prefix.mp (by decide)) 17
      (by decide) (by decide) ?_
    exact ⟨'Y', by decide +kernel⟩

end Endpoints

end ValidatorEjector
