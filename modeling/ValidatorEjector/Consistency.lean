/-
**`services/consistency` — the chain ids of all endpoints.**

Every endpoint of both layers is asked for its chain id, and the ids that are read from the answers must be
one number. They are read with `parseInt`, which takes the numeral a text starts with, to the nearest double.

* `ConsistencyChecker` — the two lists of endpoints, and what each answers with.
* `fetchElChainId`, `fetchClChainId`, `collect`, `checkChainIds` — the check.
* `AnswersWith` — the text of an endpoint; `OneChain` — all texts are well formed and denote one integer.
* `Alike` — all texts start with a numeral, and the numerals have one nearest double.
* `checkChainIds_ok` — the check resolves with the number of `Alike`.
* `checkChainIds_iff` — when that is right.
-/

import ValidatorEjector.Hex
import ValidatorEjector.Js.Stringify
import ValidatorEjector.Request.Fallback

namespace ValidatorEjector

open Js Request

open Library.Program

/-! ### The check -/

/-- **`makeConsistencyChecker`**: the endpoints of the two layers, and what a request to the endpoint at a
place of its list gives. -/
structure ConsistencyChecker where
  EXECUTION_NODE : List String
  CONSENSUS_NODE : List String
  el : Nat → String → Except Thrown HttpResponse
  cl : Nat → String → Except Thrown HttpResponse
  hostOf : String → String

/-- `json?.a?.b` along the keys. -/
def chained : List String → Json → Option Json
  | [], json => some json
  | key :: keys, .object members => (Json.member? members key).bind (chained keys)
  | _ :: _, _ => none

/-- The text of a number in `JSON.stringify`. -/
def jsonNumeral (n : JsNumber) : String :=
  match n with
  | .nan => "null"
  | .infinity _ => "null"
  | n => n.toText

/-- The id an endpoint answers with under the keys, or an error that it is missing. -/
def fetchChainId (answer : String → Except Thrown HttpResponse) (endpoint : String)
    (keys : List String) (missing : String) (radix : Nat) : EStateM Thrown Unit JsNumber := do
  let res ← makeRequest (fun config => ofResult (answer config.url)) [notOkError] endpoint
  let json ← ofResult (safelyParseJsonResponse res)
  match chained keys json with
  | some (.string result) => pure (parseInt result radix)
  | _ => throw (.error "Error" missing)

/-! ### Texts -/

/-- What is left of a text after the prefix of a hexadecimal numeral. -/
def afterPrefix (radix : Nat) (cs : List Char) : List Char :=
  match radix, cs with
  | 16, '0' :: 'x' :: rest => rest
  | 16, '0' :: 'X' :: rest => rest
  | _, cs => cs

/-- The integer of the numeral a text starts with: white space, a sign and a prefix may stand before its digits,
and anything after them. -/
def leading? (radix : Nat) (text : String) : Option Int :=
  let (negative, cs) := readSign (trimStart text.toList)
  match readDigits radix (afterPrefix radix cs) with
  | ([], _) => none
  | (ds, _) => some (if negative then -(digitsValue radix ds : Int) else digitsValue radix ds)

section Leading

variable {radix : Nat} {text : String} {negative : Bool} {cs : List Char}

theorem leading?_of_sign (sign : readSign (trimStart text.toList) = (negative, cs)) :
    leading? radix text = if (readDigits radix (afterPrefix radix cs)).1 = [] then none else
      some (if negative then -(digitsValue radix (readDigits radix (afterPrefix radix cs)).1 : Int)
        else digitsValue radix (readDigits radix (afterPrefix radix cs)).1) := by
  unfold leading?
  rw [sign]
  dsimp only
  generalize readDigits radix (afterPrefix radix cs) = read
  rcases read with ⟨_ | ⟨d, ds⟩, rest⟩
  · rfl
  · rfl

theorem parseInt_of_sign (known : radix = 10 ∨ radix = 16)
    (sign : readSign (trimStart text.toList) = (negative, cs)) :
    parseInt text radix = if (readDigits radix (afterPrefix radix cs)).1 = [] then .nan else
      ofRat (signed negative (digitsValue radix (readDigits radix (afterPrefix radix cs)).1)) := by
  unfold parseInt
  rw [sign]
  split
  rename_i same
  cases same
  split
  rename_i radix' cs' start
  have stripped : radix' = radix ∧ cs' = afterPrefix radix cs := by
    unfold afterPrefix
    rcases known with rfl | rfl
    · cases start
      exact ⟨rfl, rfl⟩
    · split at start <;> cases start <;> simp_all
  obtain ⟨rfl, rfl⟩ := stripped
  generalize readDigits radix' (afterPrefix radix' cs) = read
  rcases read with ⟨_ | ⟨d, ds⟩, rest⟩
  · rfl
  · rfl

/-- **`parseInt`** rounds that integer to the nearest double. -/
theorem parseInt_leading (known : radix = 10 ∨ radix = 16) (text : String) :
    parseInt text radix = (leading? radix text).elim .nan fun z => ofRat z := by
  cases sign : readSign (trimStart text.toList) with
  | mk negative cs =>
    rw [parseInt_of_sign known sign, leading?_of_sign sign]
    by_cases empty : (readDigits radix (afterPrefix radix cs)).1 = []
    · rw [if_pos empty, if_pos empty]
      rfl
    · rw [if_neg empty, if_neg empty]
      cases negative <;> simp [signed]

end Leading

/-- A decimal text: digits, and nothing else. -/
def decimal? (text : String) : Option Nat := Hex.numeralValue? 10 text.toList

/-- A text whose numeral is read without a sign. -/
theorem leading?_of_read {radix : Nat} {text : String} {cs : List Char} {d : Nat} {ds : List Nat}
    {rest : List Char} (start : readSign (trimStart text.toList) = (false, cs))
    (read : readDigits radix (afterPrefix radix cs) = (d :: ds, rest)) :
    leading? radix text = some (digitsValue radix (d :: ds) : Int) := by
  rw [leading?_of_sign start, read]
  rfl

theorem leading?_quantity {text : String} {n : Nat} (value : Hex.quantity? text = some n) :
    leading? 16 text = some (n : Int) := by
  obtain ⟨cs, list, numeral⟩ := Hex.quantity?_some value
  obtain ⟨c, rest, d, ds, rfl, -, read, rfl⟩ := Hex.numeralValue?_some numeral
  have start : readSign (trimStart text.toList) = (false, '0' :: 'x' :: c :: rest) := by
    rw [list]
    rfl
  exact leading?_of_read start read

theorem leading?_decimal {text : String} {n : Nat} (value : decimal? text = some n) :
    leading? 10 text = some (n : Int) := by
  obtain ⟨c, rest, d, ds, list, digit, read, rfl⟩ := Hex.numeralValue?_some value
  have range := digitValue?_range digit
  have start : readSign (trimStart text.toList) = (false, c :: rest) := by
    have solid : trimStart (c :: rest) = c :: rest :=
      List.dropWhile_cons_of_neg (by rw [solid_of_digit digit]; decide)
    rw [list, solid]
    unfold readSign
    split
    · rename_i dash
      cases dash
      exact absurd range.1 (by decide)
    · rename_i plus
      cases plus
      exact absurd range.1 (by decide)
    · rfl
  rw [list] at read
  exact leading?_of_read start read

/-! ### Answers -/

/-- **An endpoint answers with a text**: its response is ok, and its body is JSON with the text under the
keys. -/
def AnswersWith (outcome : Except Thrown HttpResponse) (keys : List String) (text : String) : Prop :=
  ∃ res body json, outcome = .ok res ∧ res.ok = true ∧ res.body = .ok body ∧ Json.parse body =
    some json ∧
    chained keys json = some (.string text)

theorem AnswersWith.unique {outcome : Except Thrown HttpResponse} {keys : List String}
    {text text' : String} (answers : AnswersWith outcome keys text)
    (answers' : AnswersWith outcome keys text') :
      text = text' := by
  obtain ⟨res, body, json, answered, -, read, parsed, found⟩ := answers
  obtain ⟨res', body', json', answered', -, read', parsed', found'⟩ := answers'
  rw [answered] at answered'
  cases answered'
  rw [read] at read'
  cases read'
  rw [parsed] at parsed'
  cases parsed'
  rw [found] at found'
  cases found'
  rfl

/-- **What is fetched** is the number that the answered text is parsed to. -/
theorem fetchChainId_ok {answer : String → Except Thrown HttpResponse} {endpoint : String}
    {keys : List String} {missing : String} {radix : Nat} {n : JsNumber} :
    fetchChainId answer endpoint keys missing radix () = .ok n () ↔
      ∃ text, AnswersWith (answer endpoint) keys text ∧ parseInt text radix = n := by
  have responds {res : HttpResponse} : makeRequest
      (fun config => ofResult (answer config.url)) [notOkError]
      endpoint () = .ok res () ↔ answer endpoint = .ok res ∧ res.ok = true := by
    show notOkError ⟨endpoint, 0⟩ (fun config => ofResult (answer config.url)) () = _ ↔ _
    rw [notOkError_ok, ofResult_ok]
    simp
  unfold fetchChainId
  constructor
  · intro fetched
    obtain ⟨res, s, answered, fetched⟩ := bind_ok.mp fetched
    obtain ⟨json, s', read, fetched⟩ := bind_ok.mp fetched
    obtain ⟨answered, good⟩ := responds.mp answered
    obtain ⟨body, text, parsed⟩ := safelyParseJsonResponse_ok.mp (ofResult_ok.mp read).1
    cases found : chained keys json with
    | none =>
      rw [found] at fetched
      cases fetched
    | some value =>
      rw [found] at fetched
      cases value with
      | string result =>
        cases fetched
        exact ⟨result, ⟨res, body, json, answered, good, text, parsed, found⟩, rfl⟩
      | _ => cases fetched
  · rintro ⟨text, ⟨res, body, json, answered, good, read, parsed, found⟩, rfl⟩
    refine bind_ok.mpr ⟨res, (), responds.mpr ⟨answered, good⟩, bind_ok.mpr ⟨json, (), ?_, ?_⟩⟩
    · exact ofResult_ok.mpr ⟨safelyParseJsonResponse_ok.mpr ⟨body, read, parsed⟩, rfl⟩
    · rw [found]
      rfl

namespace ConsistencyChecker

variable (c : ConsistencyChecker)

def fetchElChainId (url : String) (idx : Nat) : EStateM Thrown Unit JsNumber :=
  fetchChainId (c.el idx) url ["result"] s!"EL {c.hostOf url}: missing 'result' in eth_chainId response" 16

def fetchClChainId (url : String) (idx : Nat) : EStateM Thrown Unit JsNumber :=
  fetchChainId (c.cl idx) (url ++ "/eth/v1/config/deposit_contract") ["data", "chain_id"]
    s!"CL {c.hostOf url}: missing 'data.chain_id' in deposit_contract response" 10

/-- The detail of an error: the id of every endpoint. -/
def detail (urls : List String) (chainIds : List JsNumber) : String :=
  Json.stringify jsonNumeral (.array ((urls.zip chainIds).mapIdx fun i (url, id) =>
    .object [("idx", .number (.int i)), ("url", .string (c.hostOf url)), ("chainId", .number id)]))

/-- `collect`. The numbers of a `Set` are compared as they are here, `NaN` with itself too. -/
def collect (label : String) (urls : List String)
    (fetcher : String → Nat → EStateM Thrown Unit JsNumber) :
    Except Thrown (List JsNumber) := do
  let results ← iterateAll urls fetcher
  let failed := results.filter fun r => r.outcome.toOption.isNone
  if 0 < failed.length then
    throw (.error "Error" s!"{label} chain-id check failed for {failed.length} of {urls.length} endpoints")
  let chainIds := results.filterMap fun r => r.outcome.toOption
  let distinct := chainIds.eraseDups
  if 1 < distinct.length then
    throw (.error "Error" s!"{label} endpoints report different chain ids: {c.detail urls chainIds}")
  pure chainIds

def checkChainIds : Except Thrown JsNumber := do
  let elIds ← c.collect "EL" c.EXECUTION_NODE c.fetchElChainId
  let clIds ← c.collect "CL" c.CONSENSUS_NODE c.fetchClChainId
  -- a list that `collect` returns has a first element, so nothing is read as `NaN`
  let elId := elIds.head?.getD .nan
  let clId := clIds.head?.getD .nan
  if !elId.strictEq clId then
    throw (.error "Error" s!"EL chain id ({elId.toText}) does not match CL chain id ({clId.toText})")
  pure elId

/-! ### What resolves -/

section Resolves

variable {c} {label : String} {urls : List String}
  {fetcher : String → Nat → EStateM Thrown Unit JsNumber} {x : JsNumber}

theorem length_eraseDups_le_one {α : Type} [DecidableEq α] {a : α} {as : List α} :
    (a :: as).eraseDups.length ≤ 1 ↔ ∀ b ∈ as, b = a := by
  rw [List.eraseDups_cons]
  cases others : as.filter fun b => !b == a with
  | nil => simpa [List.filter_eq_nil_iff] using others
  | cons b bs =>
    have inside : b ∈ as.filter fun b => !b == a := others ▸ List.mem_cons_self
    obtain ⟨member, other⟩ := List.mem_filter.mp inside
    have differs : b ≠ a := by simpa using other
    rw [List.eraseDups_cons]
    constructor
    · intro short
      simp at short
    · intro same
      exact absurd (same b member) differs

/-- The checks of `collect` on what `iterateAll` has kept. -/
theorem collect_kept {ids : List JsNumber} {results : List (Settled JsNumber)}
    (kept : iterateAll urls fetcher = .ok results) : c.collect label urls fetcher = .ok ids ↔
      (∀ r ∈ results, ∃ n, r.outcome = .ok n) ∧ results.filterMap (fun r => r.outcome.toOption) = ids ∧
        ids.eraseDups.length ≤ 1 := by
  have all : ¬ 0 < (results.filter fun r => r.outcome.toOption.isNone).length ↔
      ∀ r ∈ results, ∃ n, r.outcome = .ok n := by
    rw [Nat.not_lt, Nat.le_zero, List.length_eq_zero_iff, List.filter_eq_nil_iff]
    refine forall₂_congr fun r inside => ?_
    cases r.outcome with
    | ok n => simp [Except.toOption]
    | error e => simp [Except.toOption]
  unfold collect
  rw [kept]
  show (if _ then Except.error _ else if _ then Except.error _ else Except.ok _) = _ ↔ _
  rw [except_guard_ok, except_guard_ok, all, Except.ok.injEq, Nat.not_lt]
  refine and_congr_right fun _ => ?_
  constructor
  · rintro ⟨short, rfl⟩
    exact ⟨rfl, short⟩
  · rintro ⟨rfl, short⟩
    exact ⟨short, rfl⟩

/-- The numbers of endpoints that all give one. -/
theorem filterMap_same {results : List (Settled JsNumber)} (same : ∀ r ∈ results, r.outcome = .ok x) :
    results.filterMap (fun r => r.outcome.toOption) = List.replicate results.length x := by
  have each : ∀ r ∈ results, r.outcome.toOption = some x := by
    intro r inside
    rw [same r inside]
    rfl
  rw [List.filterMap_congr each, List.filterMap_eq_map', List.map_const']

/-- **What `collect` returns**: one number as often as there are endpoints, which all of them give. -/
theorem collect_ok {ids : List JsNumber} : c.collect label urls fetcher = .ok ids ↔
    urls ≠ [] ∧ ∃ x, ids = List.replicate urls.length x ∧
      ∀ i url, urls[i]? = some url → fetcher url i () = .ok x () := by
  cases kept : iterateAll urls fetcher with
  | error e =>
    have empty : urls = [] := by
      unfold iterateAll at kept
      split_ifs at kept with empty
      exact List.length_eq_zero_iff.mp empty
    unfold collect
    rw [kept, empty]
    exact ⟨fun run => (by cases run), fun claim => absurd rfl claim.1⟩
  | ok results =>
    obtain ⟨filled, length, outcomes⟩ := iterateAll_ok kept
    rw [collect_kept kept, ← length]
    constructor
    · rintro ⟨good, numbers, short⟩
      have number (i : Nat) (url : String) (here : urls[i]? = some url) :
          ∃ n ∈ ids, fetcher url i () = .ok n () := by
        have inside := (outcomes ⟨url, i, settled (fetcher url i)⟩).mpr ⟨i, url, here, rfl⟩
        obtain ⟨n, gives⟩ := good _ inside
        refine ⟨n, numbers ▸ List.mem_filterMap.mpr ⟨_, inside, ?_⟩, settled_ok.mp gives⟩
        rw [gives]
        rfl
      obtain ⟨url, rest, list⟩ := List.exists_cons_of_ne_nil filled
      obtain ⟨n, member, -⟩ := number 0 url (by rw [list]; rfl)
      obtain ⟨x, others, row⟩ := List.exists_cons_of_ne_nil (List.ne_nil_of_mem member)
      rw [row, length_eraseDups_le_one] at short
      have same (i : Nat) (url : String) (here : urls[i]? = some url) : fetcher url i () = .ok x () := by
        obtain ⟨n, member, gives⟩ := number i url here
        rw [row] at member
        rcases List.mem_cons.mp member with rfl | later
        · exact gives
        · rwa [short n later] at gives
      refine ⟨filled, x, ?_, same⟩
      rw [← numbers]
      refine filterMap_same fun r inside => ?_
      obtain ⟨i, url, here, rfl⟩ := (outcomes r).mp inside
      exact settled_ok.mpr (same i url here)
    · rintro ⟨-, x, rfl, same⟩
      have every : ∀ r ∈ results, r.outcome = .ok x := by
        intro r inside
        obtain ⟨i, url, here, rfl⟩ := (outcomes r).mp inside
        exact settled_ok.mpr (same i url here)
      refine ⟨fun r inside => ⟨x, every r inside⟩, filterMap_same every, ?_⟩
      cases results.length with
      | zero => exact Nat.zero_le 1
      | succ n =>
        rw [List.replicate_succ, length_eraseDups_le_one]
        exact fun b inside => List.eq_of_mem_replicate inside

/-- **When the check resolves**: all endpoints give the same number, and it is one. -/
theorem checkChainIds_ok : c.checkChainIds = .ok x ↔ c.EXECUTION_NODE ≠ [] ∧ c.CONSENSUS_NODE ≠ [] ∧
    x ≠ .nan ∧
    (∀ i url, c.EXECUTION_NODE[i]? = some url → c.fetchElChainId url i () = .ok x ()) ∧
      ∀ i url, c.CONSENSUS_NODE[i]? = some url → c.fetchClChainId url i () = .ok x () := by
  have head {urls : List String} {m : JsNumber} (filled : urls ≠ []) :
      (List.replicate urls.length m).head?.getD .nan = m := by
    obtain ⟨url, rest, rfl⟩ := List.exists_cons_of_ne_nil filled
    rfl
  have guarded (m n : JsNumber) : (do
      if !m.strictEq n then
        throw (.error "Error" s!"EL chain id ({m.toText}) does not match CL chain id ({n.toText})")
      pure m : Except Thrown JsNumber) = .ok x ↔ m ≠ .nan ∧ m = n ∧ m = x := by
    show (if _ then Except.error _ else Except.ok _) = _ ↔ _
    rw [except_guard_ok, Bool.not_eq_true', Bool.not_eq_false, JsNumber.strictEq_iff, Except.ok.injEq,
      and_assoc]
  unfold checkChainIds
  rw [except_bind_ok]
  constructor
  · rintro ⟨elIds, el, rest⟩
    obtain ⟨clIds, cl, rest⟩ := except_bind_ok.mp rest
    obtain ⟨filled, m, rfl, first⟩ := collect_ok.mp el
    obtain ⟨filled', n, rfl, second⟩ := collect_ok.mp cl
    rw [head filled, head filled'] at rest
    obtain ⟨number, rfl, rfl⟩ := (guarded m n).mp rest
    exact ⟨filled, filled', number, first, second⟩
  · rintro ⟨filled, filled', number, first, second⟩
    refine ⟨_, collect_ok.mpr ⟨filled, x, rfl, first⟩, except_bind_ok.mpr
      ⟨_, collect_ok.mpr ⟨filled', x, rfl, second⟩, ?_⟩⟩
    rw [head filled, head filled']
    exact (guarded x x).mpr ⟨number, rfl, rfl⟩

end Resolves

/-! ### One chain -/

/-- The text of an endpoint of the execution layer. -/
def ElAnswers (i : Nat) (url text : String) : Prop := AnswersWith (c.el i url) ["result"] text

/-- The text of an endpoint of the consensus layer. -/
def ClAnswers (i : Nat) (url text : String) : Prop :=
  AnswersWith (c.cl i (url ++ "/eth/v1/config/deposit_contract")) ["data", "chain_id"] text

/-- **All endpoints are on one chain**: each of the execution layer answers with a quantity and each of the
consensus layer with a decimal text, and all denote the integer. -/
structure OneChain (n : Nat) : Prop where
  el : ∀ i url, c.EXECUTION_NODE[i]? = some url → ∃ text, c.ElAnswers i url text ∧ Hex.quantity? text =
    some n
  cl : ∀ i url, c.CONSENSUS_NODE[i]? = some url → ∃ text, c.ClAnswers i url text ∧ decimal? text =
    some n

/-- **What the check is for**: it resolves if all endpoints are on one chain, with its id, and rejects
otherwise. -/
def ChecksChainIds : Prop := ∀ x, c.checkChainIds = .ok x ↔ ∃ n : Nat, x = .int n ∧ c.OneChain n

/-- **All endpoints look alike**: each answers with a text that starts with a numeral, and the double is
nearest to all these numerals. -/
structure Alike (x : JsNumber) : Prop where
  el : ∀ i url, c.EXECUTION_NODE[i]? = some url →
    ∃ text z, c.ElAnswers i url text ∧ leading? 16 text = some z ∧ ofRat z = x
  cl : ∀ i url, c.CONSENSUS_NODE[i]? = some url →
    ∃ text z, c.ClAnswers i url text ∧ leading? 10 text = some z ∧ ofRat z = x

/-- **No look deceives**: where all endpoints look alike, every text is well formed and denotes just the
double. -/
def Exact : Prop := ∀ x, c.Alike x →
  (∀ i url text, c.EXECUTION_NODE[i]? = some url → c.ElAnswers i url text →
    ∃ n : Nat, Hex.quantity? text = some n ∧ x = .int n) ∧
  ∀ i url text, c.CONSENSUS_NODE[i]? = some url → c.ClAnswers i url text →
    ∃ n : Nat, decimal? text = some n ∧ x = .int n

section Chain

variable {c} {x : JsNumber}

theorem ofRat_ne_nan (z : Int) : ofRat z ≠ .nan := by
  rcases ofRat_whole z with ⟨y, whole⟩ | ⟨negative, huge⟩
  · rw [whole]
    exact JsNumber.noConfusion
  · rw [huge]
    exact JsNumber.noConfusion

/-- The number of a text. -/
theorem fetchChainId_leading {answer : String → Except Thrown HttpResponse} {endpoint : String}
    {keys : List String} {missing : String} {radix : Nat} (known : radix = 10 ∨ radix = 16)
    (number : x ≠ .nan) : fetchChainId answer endpoint keys missing radix () = .ok x () ↔
      ∃ text z, AnswersWith (answer endpoint) keys text ∧ leading? radix text = some z ∧ ofRat z = x := by
  rw [fetchChainId_ok]
  refine exists_congr fun text => ?_
  rw [parseInt_leading known]
  cases leading? radix text with
  | none => simp [Ne.symm number]
  | some z => simp

theorem checkChainIds_alike (el : c.EXECUTION_NODE ≠ []) (cl : c.CONSENSUS_NODE ≠ []) :
    c.checkChainIds = .ok x ↔ c.Alike x := by
  rw [checkChainIds_ok]
  constructor
  · rintro ⟨-, -, number, first, second⟩
    exact ⟨fun i url here => (fetchChainId_leading (.inr rfl) number).mp (first i url here),
      fun i url here => (fetchChainId_leading (.inl rfl) number).mp (second i url here)⟩
  · intro alike
    have number : x ≠ .nan := by
      obtain ⟨url, rest, list⟩ := List.exists_cons_of_ne_nil el
      obtain ⟨text, z, -, -, rounded⟩ := alike.el 0 url (by rw [list]; rfl)
      rw [← rounded]
      exact ofRat_ne_nan z
    exact ⟨el, cl, number,
      fun i url here => (fetchChainId_leading (.inr rfl) number).mpr (alike.el i url here),
      fun i url here => (fetchChainId_leading (.inl rfl) number).mpr (alike.cl i url here)⟩

theorem OneChain.alike {n : Nat} (chain : c.OneChain n) : c.Alike (ofRat n) where
  el i url here := by
    obtain ⟨text, answers, value⟩ := chain.el i url here
    exact ⟨text, n, answers, leading?_quantity value, by rw [Int.cast_natCast]⟩
  cl i url here := by
    obtain ⟨text, answers, value⟩ := chain.cl i url here
    exact ⟨text, n, answers, leading?_decimal value, by rw [Int.cast_natCast]⟩

theorem checkChainIds_iff (el : c.EXECUTION_NODE ≠ []) (cl : c.CONSENSUS_NODE ≠ []) :
    c.ChecksChainIds ↔ c.Exact := by
  obtain ⟨url, rest, list⟩ := List.exists_cons_of_ne_nil el
  have first : c.EXECUTION_NODE[0]? = some url := by rw [list]; rfl
  constructor
  · intro checks x alike
    obtain ⟨n, rfl, chain⟩ := (checks x).mp ((checkChainIds_alike el cl).mpr alike)
    refine ⟨fun i url text here answers => ⟨n, ?_, rfl⟩, fun i url text here answers => ⟨n, ?_, rfl⟩⟩
    · obtain ⟨text', answers', value⟩ := chain.el i url here
      rwa [AnswersWith.unique answers answers']
    · obtain ⟨text', answers', value⟩ := chain.cl i url here
      rwa [AnswersWith.unique answers answers']
  · intro exact x
    rw [checkChainIds_alike el cl]
    constructor
    · intro alike
      obtain ⟨wholeEl, wholeCl⟩ := exact x alike
      obtain ⟨text, z, answers, -, -⟩ := alike.el 0 url first
      obtain ⟨n, -, rfl⟩ := wholeEl 0 url text first answers
      refine ⟨n, rfl, fun i url here => ?_, fun i url here => ?_⟩
      · obtain ⟨text, z, answers, -, -⟩ := alike.el i url here
        obtain ⟨m, value, same⟩ := wholeEl i url text here answers
        cases same
        exact ⟨text, answers, value⟩
      · obtain ⟨text, z, answers, -, -⟩ := alike.cl i url here
        obtain ⟨m, value, same⟩ := wholeCl i url text here answers
        cases same
        exact ⟨text, answers, value⟩
    · rintro ⟨n, rfl, chain⟩
      -- the id is no other double, or the look of the endpoints would deceive
      have alike := chain.alike
      obtain ⟨text, answers, value⟩ := chain.el 0 url first
      obtain ⟨m, value', rounded⟩ := (exact _ alike).1 0 url text first answers
      rw [value] at value'
      cases value'
      rwa [rounded] at alike

/-- **Clean answers do not deceive**: well formed texts of integers that are doubles. -/
theorem exact_of_clean
    (el : ∀ i url text, c.EXECUTION_NODE[i]? = some url → c.ElAnswers i url text →
      ∃ n ≤ 2 ^ 53, Hex.quantity? text = some n)
    (cl : ∀ i url text, c.CONSENSUS_NODE[i]? = some url → c.ClAnswers i url text →
      ∃ n ≤ 2 ^ 53, decimal? text = some n) : c.Exact := by
  have safe {n : Nat} (bound : n ≤ 2 ^ 53) : ofRat ((n : Int) : ℚ) = .int n := ofRat_intCast (by omega)
  refine fun x alike => ⟨fun i url text here answers => ?_, fun i url text here answers => ?_⟩
  · obtain ⟨n, bound, value⟩ := el i url text here answers
    obtain ⟨text', z, answers', start, rounded⟩ := alike.el i url here
    rw [AnswersWith.unique answers' answers, leading?_quantity value] at start
    cases start
    exact ⟨n, value, rounded.symm.trans (safe bound)⟩
  · obtain ⟨n, bound, value⟩ := cl i url text here answers
    obtain ⟨text', z, answers', start, rounded⟩ := alike.cl i url here
    rw [AnswersWith.unique answers' answers, leading?_decimal value] at start
    cases start
    exact ⟨n, value, rounded.symm.trans (safe bound)⟩

end Chain

/-! ### Samples -/

/-- Endpoints that answer with the texts, in the order of the lists. -/
def answering (els cls : List String) : ConsistencyChecker where
  EXECUTION_NODE := els.map fun _ => "http://el"
  CONSENSUS_NODE := cls.map fun _ => "http://cl"
  el i _ := .ok ⟨200, "OK", .ok (Json.stringify jsonNumeral
    (.object [("result", .string (els[i]?.getD ""))]))⟩
  cl i _ := .ok ⟨200, "OK", .ok (Json.stringify jsonNumeral
    (.object [("data", .object [("chain_id", .string (cls[i]?.getD ""))])]))⟩
  hostOf url := url

section Answering

variable {els cls : List String}

theorem elAnswers_answering {i : Nat} {url text : String} :
    (answering els cls).ElAnswers i url text ↔ els[i]?.getD "" = text := by
  have answers : (answering els cls).ElAnswers i url (els[i]?.getD "") :=
    ⟨_, _, _, rfl, rfl, rfl, Json.parse_stringify ⟨trivial, trivial⟩, rfl⟩
  exact ⟨answers.unique, fun same => same ▸ answers⟩

theorem clAnswers_answering {i : Nat} {url text : String} :
    (answering els cls).ClAnswers i url text ↔ cls[i]?.getD "" = text := by
  have answers : (answering els cls).ClAnswers i url (cls[i]?.getD "") :=
    ⟨_, _, _, rfl, rfl, rfl, Json.parse_stringify ⟨⟨trivial, trivial⟩, trivial⟩, rfl⟩
  exact ⟨answers.unique, fun same => same ▸ answers⟩

theorem mem_answering {f : String → String} {texts : List String} {i : Nat} {url : String}
    (here : (texts.map f)[i]? = some url) : texts[i]?.getD "" ∈ texts := by
  rw [List.getElem?_map, Option.map_eq_some_iff] at here
  obtain ⟨text, found, -⟩ := here
  rw [found]
  exact List.mem_of_getElem? found

theorem alike_answering {x : JsNumber} (el : ∀ text ∈ els, (leading? 16 text).map
    (fun (z : Int) => ofRat z) = some x)
    (cl : ∀ text ∈ cls, (leading? 10 text).map (fun (z : Int) => ofRat z) = some x) :
      (answering els cls).Alike x where
  el i _ here := by
    obtain ⟨z, start, rounded⟩ := Option.map_eq_some_iff.mp (el _ (mem_answering here))
    exact ⟨_, z, elAnswers_answering.mpr rfl, start, rounded⟩
  cl i _ here := by
    obtain ⟨z, start, rounded⟩ := Option.map_eq_some_iff.mp (cl _ (mem_answering here))
    exact ⟨_, z, clAnswers_answering.mpr rfl, start, rounded⟩

theorem exact_answering (el : ∀ text ∈ els, ∃ n ≤ 2 ^ 53, Hex.quantity? text = some n)
    (cl : ∀ text ∈ cls, ∃ n ≤ 2 ^ 53, decimal? text = some n) : (answering els cls).Exact := by
  refine exact_of_clean (fun i url text here answers => ?_) fun i url text here answers => ?_
  · rw [← elAnswers_answering.mp answers]
    exact el _ (mem_answering here)
  · rw [← clAnswers_answering.mp answers]
    exact cl _ (mem_answering here)

/-- **Three endpoints on chain 1.** -/
theorem checkChainIds_agreed : (answering ["0x1", "0x1"] ["1"]).ChecksChainIds := by
  refine (checkChainIds_iff (by decide) (by decide)).mpr (exact_answering ?_ ?_)
  · intro text inside
    have same : text = "0x1" := by simpa using inside
    exact ⟨1, by decide, same ▸ by decide⟩
  · intro text inside
    have same : text = "1" := by simpa using inside
    exact ⟨1, by decide, same ▸ by decide⟩

/-- **A malformed id, and two ids with one nearest double**: the check resolves, and no chain is the only one. -/
theorem not_checkChainIds : ¬ (answering ["0x1zz"] ["1"]).ChecksChainIds ∧
    ¬ (answering ["0x20000000000000", "0x20000000000001"] ["9007199254740992"]).ChecksChainIds := by
  constructor
  · intro checks
    have alike : (answering ["0x1zz"] ["1"]).Alike (.int 1) :=
      alike_answering (by decide +kernel) (by decide +kernel)
    obtain ⟨n, -, chain⟩ := (checks _).mp ((checkChainIds_alike (by decide) (by decide)).mpr alike)
    obtain ⟨text, answers, value⟩ := chain.el 0 "http://el" rfl
    cases elAnswers_answering.mp answers
    cases value
  · intro checks
    have alike : (answering ["0x20000000000000", "0x20000000000001"] ["9007199254740992"]).Alike
        (.int (2 ^ 53)) :=
      alike_answering (by decide +kernel) (by decide +kernel)
    obtain ⟨n, whole, chain⟩ := (checks _).mp ((checkChainIds_alike (by decide) (by decide)).mpr alike)
    obtain ⟨text, answers, value⟩ := chain.el 1 "http://el" rfl
    cases elAnswers_answering.mp answers
    cases whole
    exact absurd value (by decide +kernel)

end Answering

end ConsistencyChecker

end ValidatorEjector
