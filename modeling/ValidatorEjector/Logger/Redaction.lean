/-
**Secrets in the log.**

The sanitizer looks for a secret as it was configured, in a text in which JSON has escaped it.

* `Sanitizer.Fits` — no secret is empty, and what the replacer inserts contains and overlaps none.
* `HidesEscaped`, `HidesDecoded` — no value is printed with a secret of its own, in the text or in a string
  that is read back from it.
* `Covered` — the escaped form of every secret contains some secret.
* `redacts` — that is what it takes in the text; strings that are read back need quotes and backslashes left
  alone too.
* `not_infix_json`, `not_infix_simple` — what that means for a line of the log, in either format.
* `Quoted` — a password with a quotation mark is printed.
-/

import ValidatorEjector.Js.Lexed
import ValidatorEjector.Logger.Printer

namespace ValidatorEjector

open Js Js.Json Library

namespace Sanitizer

variable (z : Sanitizer)

/-- The replacer inserts `text`, which contains and overlaps no secret; no secret is empty. -/
structure Fits (text : List Char) : Prop where
  filled : ∀ s ∈ z.secrets, s ≠ ""
  inserts : inserted z.replacer.toList = some text
  apart : ∀ s ∈ z.secrets, Apart text s.toList

/-- The escaped form of every secret contains some secret. -/
def Covered : Prop := ∀ s ∈ z.secrets, ∃ t ∈ z.secrets, t.toList <:+: escape s.toList

/-- Some character that JSON prints as itself is in no secret. -/
def Spares : Prop := ∃ c, escapeChar c = [c] ∧ ∀ s ∈ z.secrets, c ∉ s.toList

/-- No secret has a quotation mark or a backslash. -/
def Unmarked : Prop := ∀ s ∈ z.secrets, Unquoted s.toList

variable (numeral : JsNumber → String)

/-- A secret of a value is not printed in its escaped form. -/
def HidesEscaped : Prop := ∀ json, ∀ s ∈ z.secrets, Mentions s.toList json →
  ¬ escape s.toList <:+: (stringify numeral (some json) z).toList

/-- A secret of a value is in no string that is read back from the printed text. -/
def HidesDecoded : Prop := ∀ json decoded, parse (stringify numeral (some json) z) = some decoded →
  ∀ s ∈ z.secrets, Mentions s.toList json → ¬ Mentions s.toList decoded

end Sanitizer

section Redaction

variable {z : Sanitizer} {text : List Char} {numeral : JsNumber → String}

/-- `sanitize` replaces the secrets one after the other. -/
theorem toList_sanitize (fits : z.Fits text) (input : String) :
    (sanitize input z).toList = replaceEach (z.secrets.map String.toList) text input.toList := by
  obtain ⟨secrets, replacer⟩ := z
  have filled := fits.filled
  unfold sanitize
  dsimp only at filled ⊢
  induction secrets generalizing input with
  | nil => rfl
  | cons s secrets ih =>
    rw [List.forall_mem_cons] at filled
    have rest : Sanitizer.Fits ⟨secrets, replacer⟩ text :=
      ⟨filled.2, fits.inserts, fun t listed => fits.apart t (List.mem_cons_of_mem s listed)⟩
    rw [List.foldl_cons, ih _ rest filled.2, replaceAll_eq filled.1 fits.inserts]
    rfl

theorem filled_words (fits : z.Fits text) : ∀ w ∈ z.secrets.map String.toList, w ≠ [] := by
  intro w listed
  obtain ⟨s, secret, rfl⟩ := List.mem_map.mp listed
  exact fun empty => fits.filled s secret (String.toList_eq_nil_iff.mp empty)

theorem apart_words (fits : z.Fits text) : ∀ w ∈ z.secrets.map String.toList, Apart text w := by
  intro w listed
  obtain ⟨s, secret, rfl⟩ := List.mem_map.mp listed
  exact fits.apart s secret

/-- **No secret is left** in a sanitized text. -/
theorem not_infix_sanitize (fits : z.Fits text) {s : String} (secret : s ∈ z.secrets) (input : String) :
    ¬ s.toList <:+: (sanitize input z).toList := by
  rw [toList_sanitize fits]
  exact not_infix_replaceEach (filled_words fits) (apart_words fits) (List.mem_map_of_mem secret) _

/-- Nor is its escaped form, where that contains a secret. -/
theorem not_infix_escaped (fits : z.Fits text) (covered : z.Covered) {s : String} (secret : s ∈ z.secrets)
    (input : String) : ¬ escape s.toList <:+: (sanitize input z).toList := by
  obtain ⟨t, listed, part⟩ := covered s secret
  exact fun inside => not_infix_sanitize fits listed _ (part.trans inside)

theorem hidesEscaped_of_covered (fits : z.Fits text) (covered : z.Covered) : z.HidesEscaped numeral :=
  fun _ _ secret _ => not_infix_escaped fits covered secret _

/-- **A fenced secret** whose escaped form has no secret in it is printed. -/
theorem covered_of_hidesEscaped (fits : z.Fits text) (spares : z.Spares)
    (hides : z.HidesEscaped numeral) : z.Covered := by
  intro s secret
  by_contra free
  simp only [not_exists, not_and] at free
  obtain ⟨c, itself, unused⟩ := spares
  refine hides (.string (String.ofList (c :: (s.toList ++ [c])))) s secret ?_ ?_
  · unfold Mentions
    rw [String.toList_ofList]
    exact ⟨[c], [c], rfl⟩
  · have printed : (Json.stringify numeral (.string (String.ofList (c :: (s.toList ++ [c]))))).toList =
        ['"'] ++ c :: (escape s.toList ++ c :: ['"']) := by
      unfold Json.stringify print quote
      rw [String.toList_ofList, String.toList_ofList]
      simp [escape, itself]
    have fenced (x y : List Char) : escape s.toList <:+: x ++ c :: (escape s.toList ++ c :: y) :=
      ⟨x ++ [c], c :: y, by simp⟩
    show _ <:+: (sanitize _ z).toList
    rw [toList_sanitize fits, printed, replaceEach_fenced (filled_words fits)]
    · exact fenced _ _
    · intro w listed
      obtain ⟨t, other, rfl⟩ := List.mem_map.mp listed
      exact unused t other
    · intro w listed
      obtain ⟨t, other, rfl⟩ := List.mem_map.mp listed
      exact free t other

/-- The sanitized text is still taken apart into the strings that were printed. -/
theorem lexed_stringify (fits : z.Fits text) (unmarked : z.Unmarked) (inert : Inert text)
    (numerals : ∀ n, Unquoted (numeral n).toList) (json : Json) :
    Lexed false (stringify numeral (some json) z).toList := by
  show Lexed false (sanitize _ z).toList
  rw [toList_sanitize fits, Json.stringify, String.toList_ofList]
  refine lexed_replaceEach (filled_words fits) (fun w listed => ?_) inert ?_
  · obtain ⟨s, secret, rfl⟩ := List.mem_map.mp listed
    exact unmarked s secret
  · have lexed := lexed_print numerals (.nil false) json
    rwa [List.append_nil] at lexed

theorem hidesDecoded_of_covered (fits : z.Fits text) (covered : z.Covered) (unmarked : z.Unmarked)
    (inert : Inert text) (numerals : ∀ n, Unquoted (numeral n).toList) : z.HidesDecoded numeral := by
  intro json decoded parsed s secret mentioned found
  have lexed := lexed_stringify fits unmarked inert numerals json
  exact hidesEscaped_of_covered fits covered json s secret mentioned
    (mentions_of_parse lexed parsed found)

/-- **When secrets do not survive in the log.** A secret of a value is not printed in its escaped form if
the escaped form of every secret contains some secret, and, as long as the secrets leave one character
alone, only then. It is in no string read back from the text either if, moreover, no secret has a quotation
mark or a backslash and the replacer finishes no escape. -/
theorem redacts (fits : z.Fits text) (numerals : ∀ n, Unquoted (numeral n).toList) :
    (z.Covered → z.HidesEscaped numeral) ∧ (z.Spares → z.HidesEscaped numeral → z.Covered) ∧
      (z.Covered → z.Unmarked → Inert text → z.HidesDecoded numeral) :=
  ⟨hidesEscaped_of_covered fits, covered_of_hidesEscaped fits, fun covered unmarked inert =>
    hidesDecoded_of_covered fits covered unmarked inert numerals⟩

/-! ### A line of the log -/

variable {target : LogTarget}

/-- What the simple format prints in front of the message. -/
def printer.heading (target : LogTarget) : String :=
  white ++ dateFormat target.timestamp ++ colorTable target.level ++ " " ++ target.level.name ++ white ++
    ":" ++ colorTable target.level

/-- What it prints behind the message. -/
def printer.ending (numeral : JsNumber → String) (target : LogTarget) (z : Sanitizer) : List Char :=
  match truthy target.details with
  | some details => ' ' :: (stringify numeral (some details) z).toList
  | none => []

theorem toList_white : white.toList = '\x1b' :: "[0m".toList := by decide

theorem toList_simple : (printer.simple numeral target z).toList = (printer.heading target).toList ++
    ' ' :: ((sanitize target.message z).toList ++ '\x1b' :: ("[0m".toList ++
      printer.ending numeral target z)) := by
  have space : " ".toList = [' '] := by decide
  have begins : (printer.heading target ++ " " ++ sanitize target.message z ++ white).toList =
      (printer.heading target).toList ++
        ' ' :: ((sanitize target.message z).toList ++ '\x1b' :: "[0m".toList) := by
    rw [String.toList_append, String.toList_append, String.toList_append, space, toList_white,
      List.append_assoc, List.append_assoc, List.singleton_append]
  unfold printer.simple printer.ending
  dsimp only
  cases printer.truthy target.details with
  | none =>
    dsimp only
    rw [List.append_nil, ← begins]
    rfl
  | some details =>
    dsimp only
    unfold printer.heading at begins ⊢
    rw [String.toList_append, String.toList_append, begins, space]
    simp only [List.append_assoc, List.cons_append, List.nil_append]

/-- **No secret is in the JSON of a log entry**, in its escaped form. -/
theorem not_infix_json (fits : z.Fits text) (covered : z.Covered) {s : String} (secret : s ∈ z.secrets) :
    ¬ escape s.toList <:+: (printer.json numeral target z).toList :=
  not_infix_escaped fits covered secret _

/-- **No secret is in a simple line** behind its heading, if it has neither a space nor an escape character. -/
theorem not_infix_simple (fits : z.Fits text) {s : String} (secret : s ∈ z.secrets)
    (unspaced : ' ' ∉ s.toList) (uncolored : '\x1b' ∉ s.toList)
    (unheaded : ¬ s.toList <:+: (printer.heading target).toList) :
    ¬ s.toList <:+: (printer.simple numeral target z).toList := by
  intro inside
  rw [toList_simple, infix_append_cons_iff unspaced, infix_append_cons_iff uncolored] at inside
  rcases inside with heading | message | ending
  · exact unheaded heading
  · exact not_infix_sanitize fits secret _ message
  -- the line ends as its heading begins, but for the details
  have reset : "[0m".toList <:+: (printer.heading target).toList := by
    unfold printer.heading
    simp only [String.toList_append, List.append_assoc, toList_white, List.cons_append]
    exact List.infix_cons List.infix_append_left
  unfold printer.ending at ending
  cases details : printer.truthy target.details with
  | none =>
    rw [details, List.append_nil] at ending
    exact unheaded (ending.trans reset)
  | some value =>
    rw [details] at ending
    dsimp only at ending
    rw [infix_append_cons_iff unspaced] at ending
    rcases ending with ending | printed
    · exact unheaded (ending.trans reset)
    · exact not_infix_sanitize fits secret _ printed

end Redaction

/-! ### Two passwords -/

namespace Quoted

/-- The replacer of the app. -/
def replacer : String := "<secret>"

/-- A password without special characters, and one with a quotation mark. -/
def plain : Sanitizer := ⟨["12345"], replacer⟩

def marked : Sanitizer := ⟨["a\"b"], replacer⟩

/-- The config of the app, as far as it is secret. -/
def config (password : String) : Json := .object [("MESSAGES_PASSWORD", .string password)]

theorem inert_replacer : Inert replacer.toList :=
  ⟨⟨'<', "secret>".toList, by decide, by decide, by decide⟩, by decide⟩

theorem fits_of_disjoint {s : String} (filled : s ≠ "")
    (disjoint : (s.toList.all fun c => c ∉ replacer.toList) = true) :
    Sanitizer.Fits ⟨[s], replacer⟩ replacer.toList := by
  have fixed : inserted replacer.toList = some replacer.toList := by decide
  refine ⟨?_, fixed, ?_⟩
  · rw [List.forall_mem_singleton]
    exact filled
  · rw [List.forall_mem_singleton]
    refine Apart.of_disjoint (by decide) (fun empty => ?_) fun c inside => ?_
    · exact filled (String.toList_eq_nil_iff.mp empty)
    · exact of_decide_eq_true (List.all_eq_true.mp disjoint c inside)

theorem unquoted_toText (n : JsNumber) : Unquoted n.toText.toList := by
  have integer {z : Int} : Unquoted (toString z).toList :=
    ⟨not_mem_toString (by decide) (by decide) z, not_mem_toString (by decide) (by decide) z⟩
  cases n with
  | nan => decide
  | infinity negative => cases negative <;> decide
  | int z => exact ⟨not_mem_toText_int (by decide) (by decide) z, not_mem_toText_int (by decide) (by decide) z⟩
  | fraction q =>
    unfold JsNumber.toText
    rw [String.toList_append, String.toList_append]
    have denominator : Unquoted (toString q.den).toList := integer (z := (q.den : Int))
    exact (integer.append (by decide)).append denominator

/-- The first password is hidden from every value. -/
theorem redacts_plain : plain.HidesEscaped JsNumber.toText ∧ plain.HidesDecoded JsNumber.toText := by
  have fits : plain.Fits replacer.toList := fits_of_disjoint (by decide) (by decide)
  have covered : plain.Covered := by
    intro s secret
    rw [List.mem_singleton.mp secret]
    exact ⟨"12345", List.mem_singleton_self _, by decide⟩
  have unmarked : plain.Unmarked := by
    intro s secret
    rw [List.mem_singleton.mp secret]
    decide
  obtain ⟨escaped, _, decoded⟩ := redacts fits unquoted_toText
  exact ⟨escaped covered, decoded covered unmarked inert_replacer⟩

/-- **The second one is printed** with the config, and read back. -/
theorem not_redacts : ¬ ∀ z text, Sanitizer.Fits z text →
    z.HidesEscaped JsNumber.toText ∧ z.HidesDecoded JsNumber.toText := by
  intro claim
  have fits : marked.Fits replacer.toList := fits_of_disjoint (by decide) (by decide)
  have secret : "a\"b" ∈ marked.secrets := List.mem_singleton_self _
  have mentioned : Mentions "a\"b".toList (config "a\"b") := .inr (.inl (List.infix_refl _))
  refine (claim marked replacer.toList fits).1 (config "a\"b") _ secret mentioned ?_
  decide +kernel

end Quoted

end ValidatorEjector
