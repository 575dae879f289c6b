/-
**The shapes of an exit message.**

* `Bare` — an object with the fields of a message; `Wrapped` — an object with such an object as `exit`, and a
  fork version.
* `Keeps` — the message that is kept: the inner one if the value is wrapped, else its own.
* `exitMessageDTO_ok`, `ethDoExitMessageDTO_ok` — each check accepts its shape.
* `Holds` — the value in a file, decrypted where it is encrypted.
* **`exitMessages_shapes`** — the two shapes are accepted and no other, and a load keeps such messages only.
-/

import ValidatorEjector.Messages.Load

namespace ValidatorEjector

open Js Library Library.Program Validator

/-- An object with the fields of the message, as texts. -/
def Bare (json : Json) (m : ExitMessage) : Prop :=
  ∃ members inner : Members, json = .object members ∧ members.get "message" = some (.object inner) ∧
    inner.get "epoch" = some (.string m.message.epoch) ∧
    inner.get "validator_index" = some (.string m.message.validator_index) ∧
    members.get "signature" = some (.string m.signature)

/-- An object whose `exit` has the fields of the message, with a fork version. -/
def Wrapped (json : Json) (m : ExitMessage) : Prop :=
  ∃ (members : Members) (exit : Json) (fork_version : String), json = .object members ∧
    members.get "exit" = some exit ∧
    Bare exit m ∧ members.get "fork_version" = some (.string fork_version)

/-- The message of the value: the wrapped one if there is one, else its own. -/
def Keeps (json : Json) (m : ExitMessage) : Prop := Wrapped json m ∨ Bare json m ∧ ∀ m', ¬ Wrapped json m'

/-! ### The checks -/

section Checks

variable {json : Json} {m : ExitMessage}

theorem exitMessageDTO_ok {input : Option Json} :
    exitMessageDTO input = .ok m ↔ ∃ json, input = some json ∧ Bare json m := by
  unfold exitMessageDTO
  rw [obj_ok]
  constructor
  · rintro ⟨members, rfl, accepted⟩
    obtain ⟨message, inner, accepted⟩ := except_bind_ok.mp accepted
    obtain ⟨signature, signed, same⟩ := except_bind_ok.mp accepted
    cases same
    obtain ⟨fields, found, read⟩ := obj_ok.mp inner
    obtain ⟨epoch, first, read⟩ := except_bind_ok.mp read
    obtain ⟨index, second, same⟩ := except_bind_ok.mp read
    cases same
    exact ⟨_, rfl, members, fields, rfl, found, str_ok.mp first, str_ok.mp second, str_ok.mp signed⟩
  · rintro ⟨_, rfl, members, fields, rfl, found, epoch, index, signature⟩
    refine ⟨members, rfl, except_bind_ok.mpr ⟨m.message, obj_ok.mpr ⟨fields, found, ?_⟩, ?_⟩⟩
    · exact except_bind_ok.mpr ⟨_, str_ok.mpr epoch, except_bind_ok.mpr ⟨_, str_ok.mpr index, rfl⟩⟩
    · exact except_bind_ok.mpr ⟨_, str_ok.mpr signature, rfl⟩

theorem ethDoExitMessageDTO_ok {wrapped : EthDoExitMessage} :
    ethDoExitMessageDTO (some json) = .ok wrapped ↔ ∃ (members : Members) (exit : Json), json = .object members ∧
      members.get "exit" = some exit ∧ Bare exit wrapped.exit ∧
      members.get "fork_version" = some (.string wrapped.fork_version) := by
  unfold ethDoExitMessageDTO
  rw [obj_ok]
  constructor
  · rintro ⟨members, same, accepted⟩
    obtain ⟨message, inner, accepted⟩ := except_bind_ok.mp accepted
    obtain ⟨fork, version, built⟩ := except_bind_ok.mp accepted
    cases same
    cases built
    obtain ⟨exit, found, bare⟩ := exitMessageDTO_ok.mp inner
    exact ⟨members, exit, rfl, found, bare, str_ok.mp version⟩
  · rintro ⟨members, exit, rfl, found, bare, version⟩
    exact ⟨members, rfl, except_bind_ok.mpr ⟨_, exitMessageDTO_ok.mpr ⟨exit, found, bare⟩,
      except_bind_ok.mpr ⟨_, str_ok.mpr version, rfl⟩⟩⟩

theorem wrapped_iff : Wrapped json m ↔ ∃ fork_version,
    ethDoExitMessageDTO (some json) = .ok ⟨m, fork_version⟩ := by
  simp only [ethDoExitMessageDTO_ok]
  constructor
  · rintro ⟨members, exit, fork_version, rfl, found, bare, version⟩
    exact ⟨fork_version, members, exit, rfl, found, bare, version⟩
  · rintro ⟨fork_version, members, exit, rfl, found, bare, version⟩
    exact ⟨members, exit, fork_version, rfl, found, bare, version⟩

theorem bare_iff : Bare json m ↔ exitMessageDTO (some json) = .ok m := by
  rw [exitMessageDTO_ok]
  constructor
  · intro bare
    exact ⟨json, rfl, bare⟩
  · rintro ⟨_, same, bare⟩
    cases same
    exact bare

/-- What the two alternatives come to: the right one if it is accepted, else the left one. -/
theorem or_ok {α : Type} {left right : Except Failure α} {a : α} :
    Validator.or left right = .ok a ↔ right = .ok a ∨ left = .ok a ∧ ∀ b, right ≠ .ok b := by
  unfold Validator.or
  cases right with
  | ok b => simp
  | error rightError =>
    cases left with
    | ok b => simp
    | error leftError =>
      simp only [reduceCtorEq, false_or, false_and, iff_false]
      split_ifs <;> simp

theorem map_ok {α β : Type} {f : α → β} {check : Except Failure α} {b : β} :
    check.map f = .ok b ↔ ∃ a, check = .ok a ∧ f a = b := by
  cases check with
  | ok a => simp [Except.map]
  | error failure => simp [Except.map]

theorem wrap_ok {α : Type} {check : Except Failure α} {a : α} : wrap check = .ok a ↔ check = .ok a := by
  cases check with
  | ok b => simp [wrap, Except.mapError]
  | error failure => simp [wrap, Except.mapError]

/-- **The message of an accepted value** is the one that it keeps. -/
theorem exitOrEthDoExitDTO_message :
    (∃ validated, exitOrEthDoExitDTO (some json) = .ok validated ∧ validated.message = m) ↔ Keeps json m := by
  unfold exitOrEthDoExitDTO
  simp only [wrap_ok, or_ok, map_ok]
  constructor
  · rintro ⟨validated, ⟨wrapped, accepted, rfl⟩ | ⟨⟨message, accepted, rfl⟩, none⟩, rfl⟩
    · exact .inl (wrapped_iff.mpr ⟨wrapped.fork_version, accepted⟩)
    · refine .inr ⟨bare_iff.mpr accepted, fun m' other => ?_⟩
      obtain ⟨fork_version, accepted'⟩ := wrapped_iff.mp other
      exact none _ (map_ok.mpr ⟨_, accepted', rfl⟩)
  · rintro (wrapped | ⟨bare, none⟩)
    · obtain ⟨fork_version, accepted⟩ := wrapped_iff.mp wrapped
      exact ⟨_, .inl ⟨_, accepted, rfl⟩, rfl⟩
    · refine ⟨_, .inr ⟨⟨m, bare_iff.mp bare, rfl⟩, fun validated other => ?_⟩, rfl⟩
      obtain ⟨wrapped, accepted, _⟩ := map_ok.mp other
      exact none wrapped.exit (wrapped_iff.mpr ⟨wrapped.fork_version, accepted⟩)

end Checks

/-! ### Files -/

namespace MessagesProcessor

variable {σ : Type}

/-- The value in a file: what it says, or what is in it once it is decrypted. -/
def Holds (p : MessagesProcessor σ) (content : String) (json : Json) : Prop :=
  (Json.parse content = some json ∧ json.hasKey "crypto" = some false) ∨
    ∃ encrypted, Json.parse content = some encrypted ∧ encrypted.hasKey "crypto" = some true ∧
      p.decryptMessage encrypted = .ok json

theorem fileMessage_some {p : MessagesProcessor σ} {content : String} {m : ExitMessage} :
    p.fileMessage content = .ok (some m) ↔ ∃ json, p.Holds content json ∧ Keeps json m := by
  simp only [← exitOrEthDoExitDTO_message]
  unfold fileMessage Holds
  cases parsed : Json.parse content with
  | none => simp
  | some json =>
    cases key : json.hasKey "crypto" with
    | none => simp [key]
    | some encrypted =>
      cases encrypted with
      | false =>
        cases shape : exitOrEthDoExitDTO (some json) with
        | error failure => simp [key, shape]
        | ok validated => simp [key, shape]
      | true =>
        cases decrypted : p.decryptMessage json with
        | error failure => simp [key, decrypted]
        | ok opened =>
          cases shape : exitOrEthDoExitDTO (some opened) with
          | error failure => simp [key, decrypted, shape]
          | ok validated => simp [key, decrypted, shape]

/-- What a load reads: nothing without a location. -/
def Reads (p : MessagesProcessor σ) (s : MessagesState σ) (folder : List MessageFile) : Prop :=
  if missing p.MESSAGES_LOCATION then folder = []
  else ∃ world, p.outside.readFolder (p.MESSAGES_LOCATION.getD "") s.world = .ok folder world

/-- The message is taken from the file: it is the one that the value in the file keeps. -/
structure Taken (p : MessagesProcessor σ) (metadata : OrderedMap String ExitMessageWithMetadata)
    (forkVersion : String) (file : MessageFile) (m : ExitMessageWithMetadata) : Prop where
  filled : file.content ≠ ""
  unseen : p.isSeen metadata file.content = false
  shape : ∃ json, p.Holds file.content json ∧ Keeps json m.data
  named : m.meta = ⟨p.crypto.sha256 file.content, file.filename, forkVersion⟩

theorem mem_newMessage {p : MessagesProcessor σ} {metadata : OrderedMap String ExitMessageWithMetadata}
    {forkVersion : String} {file : MessageFile} {m : ExitMessageWithMetadata} :
    m ∈ p.newMessage metadata forkVersion file ↔ p.Taken metadata forkVersion file m := by
  constructor
  · intro inside
    unfold newMessage at inside
    split at inside
    · rename_i message opened
      rw [List.mem_singleton] at inside
      subst inside
      obtain ⟨filled, unseen, read⟩ := opened_message opened
      exact ⟨filled, unseen, fileMessage_some.mp read, rfl⟩
    · cases inside
  · rintro ⟨filled, unseen, shape, named⟩
    have opened : p.opened metadata file = .message m.data := by
      rw [opened_of_text filled unseen, fileMessage_some.mpr shape]
    rw [newMessage_of_opened opened, ← named]
    exact List.mem_singleton_self _

/-- The messages of a load are those taken from the files that it reads. -/
theorem mem_loadNewMessages {p : MessagesProcessor σ} {forkVersion : String} {s s' : MessagesState σ}
    {loaded : List ExitMessageWithMetadata} (ran : p.loadNewMessages forkVersion s = .ok loaded s') :
    ∃ folder, p.Reads s folder ∧ ∀ m, m ∈ loaded ↔
      ∃ file ∈ folder, p.Taken s.messageStorage.messagesMetadata forkVersion file m := by
  unfold loadNewMessages at ran
  unfold Reads
  by_cases none : missing p.MESSAGES_LOCATION
  · rw [if_pos none] at ran
    cases ran
    exact ⟨[], by rw [if_pos none], fun m => by simp⟩
  · rw [if_neg none] at ran
    obtain ⟨folder, s₁, read, opened⟩ := bind_ok.mp ran
    obtain ⟨world, answered, rfl⟩ := onWorld_ok_iff.mp read
    have turns := @loadFile_turns σ p s.messageStorage.messagesMetadata forkVersion
    obtain ⟨_, rfl, _⟩ := (turns.collect folder { s with world := world } rfl loaded s').mp opened
    refine ⟨folder, by rw [if_neg none]; exact ⟨world, answered⟩, fun m => ?_⟩
    simp only [List.mem_flatMap, mem_newMessage]

end MessagesProcessor

/-! ### The two shapes -/

/-- **The two documented shapes are accepted, and no other.** A value is accepted exactly when it is bare or
wrapped. The message of an accepted value has the three fields that stand together in it, inside of `exit`
whenever it is wrapped, and the messages of a load are the messages of the values in its files. -/
theorem exitMessages_shapes :
    (∀ json, (∃ validated, exitOrEthDoExitDTO (some json) = .ok validated) ↔
      (∃ m, Bare json m) ∨ ∃ m, Wrapped json m) ∧
    (∀ json validated, exitOrEthDoExitDTO (some json) = .ok validated →
      ∀ m, Keeps json m ↔ m = validated.message) ∧
    ∀ (σ : Type) (p : MessagesProcessor σ) (forkVersion : String) (s : MessagesState σ) loaded s',
      p.loadNewMessages forkVersion s = .ok loaded s' → ∃ folder, p.Reads s folder ∧
        ∀ m, m ∈ loaded ↔ ∃ file ∈ folder, p.Taken s.messageStorage.messagesMetadata forkVersion file m := by
  refine ⟨fun json => ⟨?_, ?_⟩, fun json validated accepted m => ?_, fun σ p forkVersion s loaded s' ran =>
    MessagesProcessor.mem_loadNewMessages ran⟩
  · rintro ⟨validated, accepted⟩
    rcases exitOrEthDoExitDTO_message.mp ⟨validated, accepted, rfl⟩ with wrapped | ⟨bare, _⟩
    · exact .inr ⟨_, wrapped⟩
    · exact .inl ⟨_, bare⟩
  · intro shape
    have kept : ∃ m, Keeps json m := by
      by_cases wrapped : ∃ m, Wrapped json m
      · obtain ⟨m, wrapped⟩ := wrapped
        exact ⟨m, .inl wrapped⟩
      · obtain ⟨m, bare⟩ := shape.resolve_right wrapped
        exact ⟨m, .inr ⟨bare, fun m' other => wrapped ⟨m', other⟩⟩⟩
    obtain ⟨m, keeps⟩ := kept
    obtain ⟨validated, accepted, _⟩ := exitOrEthDoExitDTO_message.mpr keeps
    exact ⟨validated, accepted⟩
  · rw [← exitOrEthDoExitDTO_message]
    constructor
    · rintro ⟨validated', accepted', rfl⟩
      rw [accepted] at accepted'
      rw [Except.ok.inj accepted']
    · rintro rfl
      exact ⟨validated, accepted, rfl⟩

end ValidatorEjector
