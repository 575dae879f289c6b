/-
**Bad message files do no harm.**

* `Bad` — why a file ends among the bad ones; `Throws` — the contents whose error is outside of every
  handler.
* `isBad_iff`, `opened_of_orderly`, `checked_of_orderly` — what the loops make of a file agrees with the two.
* `mem_badFiles` — the bad names are the names of bad files; `verifiedMessages_eq`, `touched_eq` — the other
  files are all that counts for the storage.
* `Regular` — a load that is answered, without throwing files; `load_isolated` — it resolves, marks exactly
  the bad files, and stores what it would store without them.
* `HoleskyFixture.load_not_isolated` — what a throwing file does, and a file for an exiting validator.
-/

import ValidatorEjector.Messages.Recorded

namespace ValidatorEjector

open Js Library Library.Program

/-! ### Loops with idle turns -/

section Idle

variable {α β γ : Type}

/-- Items whose turn does nothing, where an invariant of the turns holds, may be left out. -/
theorem foldl_of_idle {f : β → α → β} {I : β → Prop} {keep : α → Bool} (keeps : ∀ b a, I b → I (f b a)) :
    ∀ {as : List α}, (∀ a ∈ as, keep a = false → ∀ b, I b → f b a = b) →
      ∀ b, I b → (as.filter keep).foldl f b = as.foldl f b
  | [], _, _, _ => rfl
  | a :: as, idle, b, start => by
    have rest := foldl_of_idle keeps fun c member => idle c (List.mem_cons_of_mem a member)
    cases kept : keep a with
    | true =>
      rw [List.filter_cons_of_pos kept, List.foldl_cons, List.foldl_cons]
      exact rest _ (keeps b a start)
    | false =>
      rw [List.filter_cons_of_neg (by rw [kept]; exact Bool.false_ne_true), List.foldl_cons,
        idle a List.mem_cons_self kept b start]
      exact rest b start

/-- Items that push nothing may be left out. -/
theorem flatMap_of_idle {out : α → List β} {keep : α → Bool} {as : List α}
    (idle : ∀ a ∈ as, keep a = false → out a = []) : (as.filter keep).flatMap out = as.flatMap out := by
  induction as with
  | nil => rfl
  | cons a as ih =>
    have rest := ih fun c member => idle c (List.mem_cons_of_mem a member)
    cases kept : keep a with
    | true => rw [List.filter_cons_of_pos kept, List.flatMap_cons, List.flatMap_cons, rest]
    | false =>
      rw [List.filter_cons_of_neg (by rw [kept]; exact Bool.false_ne_true), rest, List.flatMap_cons,
        idle a List.mem_cons_self kept, List.nil_append]

end Idle

namespace MessagesProcessor

variable {σ : Type}

/-! ### The fate of a file -/

section Fate

variable (p : MessagesProcessor σ) (metadata : OrderedMap String ExitMessageWithMetadata)

variable (c : SigningContext) (registry : String → Option ValidatorInfo)

/-- The file is marked as bad by one of the loops. -/
def isBad (file : MessageFile) : Bool :=
  match p.opened metadata file with
  | .bad => true
  | .message m =>
    match p.checked c registry m with
    | .bad => true
    | _ => false
  | _ => false

/-- **Why a file is bad**, among those that no stored message was loaded from. -/
inductive Bad (file : MessageFile) : Prop
  | empty (content : file.content = "")
  | unparseable (unseen : p.isSeen metadata file.content = false) (text : file.content ≠ "")
      (parsed : Json.parse file.content = none)
  | undecryptable (json : Json) (failure : Failure) (unseen : p.isSeen metadata file.content = false)
      (text : file.content ≠ "") (parsed : Json.parse file.content = some json)
      (encrypted : json.hasKey "crypto" = some true) (decrypted : p.decryptMessage json = .error failure)
  | shapeless (json opened : Json) (failure : Failure) (unseen : p.isSeen metadata file.content = false)
      (text : file.content ≠ "") (parsed : Json.parse file.content = some json)
      (plain : (json.hasKey "crypto" = some false ∧ opened = json) ∨
        (json.hasKey "crypto" = some true ∧ p.decryptMessage json = .ok opened))
      (shape : exitOrEthDoExitDTO (some opened) = .error failure)
  | unreported (m : ExitMessage) (unseen : p.isSeen metadata file.content = false)
      (text : file.content ≠ "") (message : p.fileMessage file.content = .ok (some m))
      (unknown : registry m.message.validator_index = none)
  | unsigned (m : ExitMessage) (info : ValidatorInfo) (unseen : p.isSeen metadata file.content = false)
      (text : file.content ≠ "") (message : p.fileMessage file.content = .ok (some m))
      (known : registry m.message.validator_index = some info) (staying : info.isExiting = false)
      (invalid : p.isValidSignature c info.pubKey m = .ok false)

/-- **The contents that throw**: a JSON value that is no object or array, and a message whose signature is
no hexadecimal text. -/
inductive Throws (file : MessageFile) : Prop
  | primitive (json : Json) (unseen : p.isSeen metadata file.content = false) (text : file.content ≠ "")
      (parsed : Json.parse file.content = some json) (value : json.hasKey "crypto" = none)
  | undecodable (m : ExitMessage) (info : ValidatorInfo) (failure : Failure)
      (unseen : p.isSeen metadata file.content = false) (text : file.content ≠ "")
      (message : p.fileMessage file.content = .ok (some m))
      (known : registry m.message.validator_index = some info) (staying : info.isExiting = false)
      (signature : p.crypto.fromHex m.signature = .error failure)

/-- What the nodes answer in hexadecimal can be decoded. -/
structure Decodes : Prop where
  genesis : ∃ bytes, p.crypto.fromHex c.genesis.genesis_validators_root = .ok bytes
  current : ∃ bytes, p.crypto.fromHex c.state.current_version = .ok bytes
  previous : ∃ bytes, p.crypto.fromHex c.state.previous_version = .ok bytes
  capella : ∃ bytes, p.crypto.fromHex c.capellaForkVersion = .ok bytes
  pubKey : ∀ i info, registry i = some info → ∃ bytes, p.crypto.fromHex info.pubKey = .ok bytes

end Fate

section Decide

variable {p : MessagesProcessor σ} {metadata : OrderedMap String ExitMessageWithMetadata}
  {c : SigningContext} {registry : String → Option ValidatorInfo} {file : MessageFile}

/-- The three reasons for which a content has no message. -/
theorem fileMessage_none {content : String} : p.fileMessage content = .ok none ↔
    Json.parse content = none ∨ ∃ json, Json.parse content = some json ∧
      ((json.hasKey "crypto" = some true ∧ ∃ failure, p.decryptMessage json = .error failure) ∨
        ∃ opened failure, ((json.hasKey "crypto" = some false ∧ opened = json) ∨
          (json.hasKey "crypto" = some true ∧ p.decryptMessage json = .ok opened)) ∧
          exitOrEthDoExitDTO (some opened) = .error failure) := by
  unfold fileMessage
  cases parsed : Json.parse content with
  | none => simp
  | some json =>
    cases key : json.hasKey "crypto" with
    | none => simp [key]
    | some encrypted =>
      cases encrypted with
      | false =>
        cases shape : exitOrEthDoExitDTO (some json) with
        | error failure => simp [key, shape]
        | ok validated => simp [key, shape]
      | true =>
        cases decrypted : p.decryptMessage json with
        | error failure => simp [key, decrypted]
        | ok opened =>
          cases shape : exitOrEthDoExitDTO (some opened) with
          | error failure => simp [key, decrypted, shape]
          | ok validated => simp [key, decrypted, shape]

/-- What is thrown outside of every handler: the operator `in` on a primitive value. -/
theorem fileMessage_error {content : String} : (∃ failure, p.fileMessage content = .error failure) ↔
    ∃ json, Json.parse content = some json ∧ json.hasKey "crypto" = none := by
  unfold fileMessage
  cases parsed : Json.parse content with
  | none => simp
  | some json =>
    cases key : json.hasKey "crypto" with
    | none => simp [key]
    | some encrypted =>
      cases inner : (if encrypted = true then p.decryptMessage json else Except.ok json) with
      | error failure => simp [key, inner]
      | ok opened =>
        cases shape : exitOrEthDoExitDTO (some opened) with
        | error failure => simp [key, inner, shape]
        | ok validated => simp [key, inner, shape]

/-- A check throws only for the signature of the message, when the rest can be decoded. -/
theorem isValidSignature_error (decodes : p.Decodes c registry) {i : String} {info : ValidatorInfo}
    (known : registry i = some info) {m : ExitMessage} {failure : Failure}
    (thrown : p.isValidSignature c info.pubKey m = .error failure) :
    p.crypto.fromHex m.signature = .error failure := by
  obtain ⟨pubKey, readKey⟩ := decodes.pubKey i info known
  obtain ⟨root, readRoot⟩ := decodes.genesis
  obtain ⟨current, readCurrent⟩ := decodes.current
  obtain ⟨previous, readPrevious⟩ := decodes.previous
  obtain ⟨capella, readCapella⟩ := decodes.capella
  unfold isValidSignature at thrown
  cases signature : p.crypto.fromHex m.signature with
  | error failure' =>
    rw [readKey, signature] at thrown
    cases thrown
    rfl
  | ok signature' =>
    rw [readKey, signature, readRoot, readCurrent, readPrevious, readCapella] at thrown
    cases thrown

/-- **A file is marked exactly for one of the reasons.** -/
theorem isBad_iff : p.isBad metadata c registry file = true ↔ p.Bad metadata c registry file := by
  constructor
  · intro bad
    unfold isBad at bad
    by_cases text : file.content = ""
    · exact .empty text
    cases unseen : p.isSeen metadata file.content with
    | true =>
      rw [show p.opened metadata file = .seen by unfold opened; rw [if_neg text, unseen]; rfl] at bad
      cases bad
    | false =>
      rw [opened_of_text text unseen] at bad
      cases message : p.fileMessage file.content with
      | error failure => rw [message] at bad; cases bad
      | ok read =>
        cases read with
        | none =>
          rcases fileMessage_none.mp message with
            parsed | ⟨json, parsed, ⟨encrypted, failure, decrypted⟩ | ⟨opened, failure, plain, shape⟩⟩
          · exact .unparseable unseen text parsed
          · exact .undecryptable json failure unseen text parsed encrypted decrypted
          · exact .shapeless json opened failure unseen text parsed plain shape
        | some m =>
          rw [message] at bad
          dsimp only at bad
          unfold checked at bad
          cases known : registry m.message.validator_index with
          | none => exact .unreported m unseen text message known
          | some info =>
            rw [known] at bad
            cases staying : info.isExiting with
            | true => simp [staying] at bad
            | false =>
              cases valid : p.isValidSignature c info.pubKey m with
              | error failure => simp [staying, valid] at bad
              | ok signed =>
                cases signed with
                | true => simp [staying, valid] at bad
                | false => exact .unsigned m info unseen text message known staying valid
  · intro bad
    unfold isBad
    cases bad with
    | empty content =>
      unfold opened
      rw [if_pos content]
    | unparseable unseen text parsed =>
      rw [opened_of_text text unseen, fileMessage_none.mpr (.inl parsed)]
    | undecryptable json failure unseen text parsed encrypted decrypted =>
      rw [opened_of_text text unseen,
        fileMessage_none.mpr (.inr ⟨json, parsed, .inl ⟨encrypted, failure, decrypted⟩⟩)]
    | shapeless json content failure unseen text parsed plain shape =>
      rw [opened_of_text text unseen,
        fileMessage_none.mpr (.inr ⟨json, parsed, .inr ⟨content, failure, plain, shape⟩⟩)]
    | unreported m unseen text message unknown =>
      rw [opened_of_text text unseen, message]
      dsimp only
      unfold checked
      rw [unknown]
    | unsigned m info unseen text message known staying invalid =>
      rw [opened_of_text text unseen, message]
      dsimp only
      unfold checked
      simp [known, staying, invalid]

/-- A file that does not throw is opened. -/
theorem opened_of_orderly (orderly : ¬ p.Throws metadata registry file) {failure : Failure} :
    p.opened metadata file ≠ .thrown failure := by
  intro thrown
  unfold opened at thrown
  by_cases text : file.content = ""
  · rw [if_pos text] at thrown
    cases thrown
  rw [if_neg text] at thrown
  cases unseen : p.isSeen metadata file.content with
  | true => simp [unseen] at thrown
  | false =>
    cases message : p.fileMessage file.content with
    | ok read => cases read <;> simp [unseen, message] at thrown
    | error failure' =>
      obtain ⟨json, parsed, value⟩ := fileMessage_error.mp ⟨failure', message⟩
      exact orderly (.primitive json unseen text parsed value)

/-- The message of a file that does not throw is checked. -/
theorem checked_of_orderly (decodes : p.Decodes c registry) (orderly : ¬ p.Throws metadata registry file)
    {m : ExitMessage} (read : p.opened metadata file = .message m) {failure : Failure} :
    p.checked c registry m ≠ .thrown failure := by
  intro thrown
  unfold opened at read
  by_cases text : file.content = ""
  · rw [if_pos text] at read
    cases read
  rw [if_neg text] at read
  cases unseen : p.isSeen metadata file.content with
  | true => simp [unseen] at read
  | false =>
    cases message : p.fileMessage file.content with
    | error _ => simp [unseen, message] at read
    | ok content =>
      cases content with
      | none => simp [unseen, message] at read
      | some m' =>
        simp only [unseen, message, Bool.false_eq_true, if_false, Opened.message.injEq] at read
        subst read
        unfold checked at thrown
        cases known : registry m'.message.validator_index with
        | none => simp [known] at thrown
        | some info =>
          cases staying : info.isExiting with
          | true => simp [known, staying] at thrown
          | false =>
            cases valid : p.isValidSignature c info.pubKey m' with
            | ok signed => cases signed <;> simp [known, staying, valid] at thrown
            | error failure' =>
              exact orderly (.undecodable m' info failure' unseen text message known staying
                (isValidSignature_error decodes known valid))

end Decide

/-! ### The bad names -/

section Names

variable {p : MessagesProcessor σ} {metadata : OrderedMap String ExitMessageWithMetadata}
  {c : SigningContext} {registry : String → Option ValidatorInfo} {name : String}

theorem mem_marked {files : List String} {filename : String} :
    name ∈ marked files filename ↔ name ∈ files ∨ filename = name := by
  unfold marked
  by_cases inside : filename ∈ files
  · rw [if_pos inside]
    exact ⟨.inl, fun either => either.elim id fun same => same ▸ inside⟩
  · rw [if_neg inside, List.mem_append, List.mem_singleton, eq_comm]

theorem mem_badFile {files : List String} {file : MessageFile} :
    name ∈ p.badFile metadata files file ↔
      name ∈ files ∨ (p.opened metadata file = .bad ∧ file.filename = name) := by
  unfold badFile
  cases p.opened metadata file with
  | bad => simp [mem_marked]
  | seen => simp
  | thrown failure => simp
  | message m => simp

theorem mem_badMessage {files : List String} {m : ExitMessageWithMetadata} :
    name ∈ p.badMessage c registry files m ↔
      name ∈ files ∨ (p.checked c registry m.data = .bad ∧ m.meta.filename = name) := by
  unfold badMessage
  cases p.checked c registry m.data with
  | bad => simp [mem_marked]
  | exiting => simp
  | thrown failure => simp
  | accepted => simp

/-- The names that a loop collects. -/
theorem mem_foldl_names {α : Type} {f : List String → α → List String} {Q : α → Prop}
    (turn : ∀ names a, name ∈ f names a ↔ name ∈ names ∨ Q a) :
    ∀ (as : List α) (names : List String), name ∈ as.foldl f names ↔ name ∈ names ∨ ∃ a ∈ as, Q a
  | [], names => by simp
  | a :: as, names => by
    rw [List.foldl_cons, mem_foldl_names turn as, turn, or_assoc]
    simp only [List.mem_cons, exists_eq_or_imp]

end Names

/-! ### A load without its bad files -/

section Isolated

variable (p : MessagesProcessor σ) (forkInfo : ForkVersionInfo) (s : MessageStorage) (x : Answers)

/-- What becomes of a file in a load. -/
def openedIn (file : MessageFile) : Opened := p.opened (opening forkInfo s x.now).messagesMetadata file

/-- A file that a load marks. -/
def isBadIn (file : MessageFile) : Bool :=
  p.isBad (opening forkInfo s x.now).messagesMetadata (x.context forkInfo) x.infos.get? file

/-- The files of a folder that are not bad. -/
def goodFiles : List MessageFile := x.folder.filter fun file => !p.isBadIn forkInfo s x file

/-- **Two loads are told the same**, but for bad files: the other files are the same, and so is what the
node reports for their messages. -/
structure SameButBad (y : Answers) : Prop where
  now : y.now = x.now
  genesis : y.genesis = x.genesis
  state : y.state = x.state
  files : p.goodFiles forkInfo s y = p.goodFiles forkInfo s x
  infos : ∀ file ∈ p.goodFiles forkInfo s x, ∀ m, p.openedIn forkInfo s x file = .message m →
    y.infos.get? m.message.validator_index = x.infos.get? m.message.validator_index

/-- What a file adds to the storage. -/
def loaded (file : MessageFile) : List ExitMessageWithMetadata :=
  (p.newMessage (opening forkInfo s x.now).messagesMetadata forkInfo.currentVersion file).flatMap
    (p.verifiedMessage (x.context forkInfo) x.infos.get?)

variable {p forkInfo s x}

/-- The names of the bad files are the names of bad files. -/
theorem mem_badFiles {name : String} : name ∈ p.badFiles forkInfo s x ↔
    ∃ file ∈ x.folder, file.filename = name ∧ p.isBadIn forkInfo s x file = true := by
  unfold badFiles
  rw [mem_foldl_names (f := p.badMessage _ _) fun _ _ => mem_badMessage,
    mem_foldl_names (f := p.badFile _) fun _ _ => mem_badFile]
  unfold isBadIn isBad
  constructor
  · rintro ((none | ⟨file, member, bad, named⟩) | ⟨m, member, bad, named⟩)
    · cases none
    · refine ⟨file, member, named, ?_⟩
      rw [bad]
    · obtain ⟨file, member, opened, made⟩ := mem_newMessages.mp member
      refine ⟨file, member, ?_, ?_⟩
      · rw [← named, made]
      · rw [opened]
        dsimp only
        rw [bad]
  · rintro ⟨file, member, named, bad⟩
    cases opened : p.opened (opening forkInfo s x.now).messagesMetadata file with
    | bad => exact .inl (.inr ⟨file, member, opened, named⟩)
    | seen => rw [opened] at bad; cases bad
    | thrown failure => rw [opened] at bad; cases bad
    | message m =>
      rw [opened] at bad
      dsimp only at bad
      refine .inr ⟨⟨m, ⟨p.crypto.sha256 file.content, file.filename, forkInfo.currentVersion⟩⟩,
        mem_newMessages.mpr ⟨file, member, opened, rfl⟩, ?_, named⟩
      cases fate : p.checked (x.context forkInfo) x.infos.get? m with
      | bad => rfl
      | exiting => rw [fate] at bad; cases bad
      | thrown failure => rw [fate] at bad; cases bad
      | accepted => rw [fate] at bad; cases bad

/-- A bad file adds nothing. -/
theorem loaded_of_bad {file : MessageFile} (bad : p.isBadIn forkInfo s x file = true) :
    p.loaded forkInfo s x file = [] := by
  unfold isBadIn isBad at bad
  unfold loaded newMessage
  cases opened : p.opened (opening forkInfo s x.now).messagesMetadata file with
  | bad => rfl
  | seen => rfl
  | thrown failure => rfl
  | message m =>
    rw [opened] at bad
    dsimp only at bad ⊢
    rw [List.flatMap_singleton]
    unfold verifiedMessage
    cases fate : p.checked (x.context forkInfo) x.infos.get? m with
    | bad => rfl
    | exiting => rfl
    | thrown failure => rfl
    | accepted => rw [fate] at bad; cases bad

/-- A bad file is not a stored one, so seeing it changes nothing. -/
theorem touchFile_of_bad {file : MessageFile} (bad : p.isBadIn forkInfo s x file = true)
    {u : MessageStorage} (same : u.messagesMetadata = (opening forkInfo s x.now).messagesMetadata) :
    p.touchFile u file = u := by
  unfold touchFile
  by_cases empty : file.content = ""
  · rw [if_pos empty]
  rw [if_neg empty]
  refine touch_snd_of_unseen ?_
  rw [same]
  cases unseen : p.isSeen (opening forkInfo s x.now).messagesMetadata file.content with
  | false => rfl
  | true =>
    unfold isBadIn isBad opened at bad
    simp [empty, unseen] at bad

/-- The messages that a load stores are those of the files that are not bad. -/
theorem verifiedMessages_eq : p.verifiedMessages forkInfo s x =
    (p.goodFiles forkInfo s x).flatMap (p.loaded forkInfo s x) := by
  unfold goodFiles
  rw [flatMap_of_idle fun file _ good => loaded_of_bad (by simpa using good)]
  unfold verifiedMessages newMessages
  rw [List.flatMap_assoc]
  rfl

/-- What a load sees are files that are not bad. -/
theorem touched_eq : (p.goodFiles forkInfo s x).foldl p.touchFile (opening forkInfo s x.now) =
    x.folder.foldl p.touchFile (opening forkInfo s x.now) := by
  refine foldl_of_idle
    (I := fun u => u.messagesMetadata = (opening forkInfo s x.now).messagesMetadata) ?_ ?_ _ rfl
  · intro u file same
    rw [touchFile_messages, same]
  · intro file _ good u same
    exact touchFile_of_bad (by simpa using good) same

/-- **Bad files do not matter to what is stored.** -/
theorem storageAfter_of_same {y : Answers} (same : p.SameButBad forkInfo s x y) :
    p.storageAfter forkInfo s y = p.storageAfter forkInfo s x := by
  have seen : y.folder.foldl p.touchFile (opening forkInfo s y.now) =
      x.folder.foldl p.touchFile (opening forkInfo s x.now) := by
    rw [← touched_eq (x := y), ← touched_eq (x := x), same.files, same.now]
  have added : p.verifiedMessages forkInfo s y = p.verifiedMessages forkInfo s x := by
    rw [verifiedMessages_eq, verifiedMessages_eq, same.files]
    refine List.flatMap_congr fun file member => ?_
    have reported := same.infos file member
    unfold openedIn at reported
    unfold loaded newMessage
    rw [same.now]
    cases opened : p.opened (opening forkInfo s x.now).messagesMetadata file with
    | bad => rfl
    | seen => rfl
    | thrown failure => rfl
    | message m =>
      dsimp only
      rw [List.flatMap_singleton, List.flatMap_singleton]
      unfold verifiedMessage checked Answers.context
      rw [reported m opened, same.genesis, same.state]
  unfold storageAfter pruned
  rw [seen, added]

end Isolated

/-! ### Loads in which nothing throws -/

section Regular

variable {p : MessagesProcessor σ} {forkInfo : ForkVersionInfo}

/-- **A load that is answered, with no throwing file in the folder.** -/
structure Regular (p : MessagesProcessor σ) (forkInfo : ForkVersionInfo) (s : MessagesState σ)
    (x : Answers) (w : σ) : Prop where
  told : p.Told forkInfo s.messageStorage x s.world w
  decodes : p.Decodes (x.context forkInfo) x.infos.get?
  files : ∀ file ∈ x.folder,
    ¬ p.Throws (opening forkInfo s.messageStorage x.now).messagesMetadata x.infos.get? file

theorem Regular.load_ok {s : MessagesState σ} {x : Answers} {w : σ} (regular : p.Regular forkInfo s x w) :
    p.loadToMemoryStorage forkInfo s = .ok (p.statsAfter forkInfo s.messageStorage x)
      (p.afterLoad forkInfo x w s) := by
  refine load_ok_iff.mpr ⟨x, w, regular.told, ⟨?_, ?_⟩, rfl, rfl⟩
  · intro file member failure
    exact opened_of_orderly (regular.files file member)
  · intro m member failure
    obtain ⟨file, inside, opened, -⟩ := mem_newMessages.mp member
    exact checked_of_orderly regular.decodes (regular.files file inside) opened

/-- **Bad message files are isolated.** Where the nodes answer and no file of the folder throws, a load
resolves, the bad names are the names of the bad files, and a load over any folder with the same other
files leaves the same storage. -/
theorem load_isolated {s : MessagesState σ} {x : Answers} {w : σ} (regular : p.Regular forkInfo s x w) :
    ∃ stats s', p.loadToMemoryStorage forkInfo s = .ok stats s' ∧
      (∀ name, name ∈ s'.invalidExitMessageFiles ↔ ∃ file ∈ x.folder, file.filename = name ∧
        p.Bad (opening forkInfo s.messageStorage x.now).messagesMetadata (x.context forkInfo)
          x.infos.get? file) ∧
      ∀ (t : MessagesState σ) (y : Answers) (v : σ), t.messageStorage = s.messageStorage →
        p.SameButBad forkInfo s.messageStorage x y → p.Regular forkInfo t y v →
        ∃ stats' t', p.loadToMemoryStorage forkInfo t = .ok stats' t' ∧
          t'.messageStorage = s'.messageStorage := by
  refine ⟨_, _, regular.load_ok, fun name => ?_, fun t y v stored same other => ?_⟩
  · refine mem_badFiles.trans (exists_congr fun file => and_congr_right fun _ => ?_)
    exact and_congr_right fun _ => isBad_iff
  · refine ⟨_, _, other.load_ok, ?_⟩
    show p.storageAfter forkInfo t.messageStorage y = p.storageAfter forkInfo s.messageStorage x
    rw [stored]
    exact storageAfter_of_same same

end Regular

end MessagesProcessor

/-! ### The fixture -/

namespace HoleskyFixture

open MessagesProcessor

variable {exit_epoch : String}

/-- A load of the fixture is regular when its files are read. -/
theorem regular {s : MessagesState Moment} (read : ∀ file ∈ s.world.folder,
    ∃ message, (processor exit_epoch).fileMessage file.content = .ok message) :
    (processor exit_epoch).Regular forkInfo s (answers exit_epoch s.messageStorage s.world) s.world := by
  refine ⟨told s.messageStorage s.world, ⟨⟨_, rfl⟩, ⟨_, rfl⟩, ⟨_, rfl⟩, ⟨_, rfl⟩, fun _ _ _ => ⟨_, rfl⟩⟩,
    fun file member throws => ?_⟩
  cases throws with
  | primitive json unseen text parsed value =>
    obtain ⟨message, resolved⟩ := read file member
    obtain ⟨failure, thrown⟩ := fileMessage_error.mpr ⟨json, parsed, value⟩
    rw [resolved] at thrown
    cases thrown
  | undecodable m info failure unseen text message known staying signature => cases signature

/-- In an empty storage nothing is seen. -/
theorem isSeen_fresh {now : Int} {content : String} : (processor exit_epoch).isSeen
    (opening forkInfo .fresh now).messagesMetadata content = false := rfl

/-- The message of the file, as it is stored. -/
def stored : ExitMessageWithMetadata := ⟨message, ⟨fileChecksum, "capella.json", CAPELLA_FORK_VERSION⟩⟩

theorem find_stored {s : MessageStorage} (inside : s.messagesMetadata.get? "828943" = some stored) :
    s.findByValidatorIndex "828943" = some message := by
  unfold MessageStorage.findByValidatorIndex
  rw [inside]
  rfl

/-- A load of signed files resolves. -/
theorem load_signed {s : MessagesState Moment}
    (signed : ∀ f ∈ s.world.folder, f = file ∨ f = ethDoFile) :
    (processor FAR_FUTURE_EPOCH).loadToMemoryStorage forkInfo s =
      .ok ((processor FAR_FUTURE_EPOCH).statsAfter forkInfo s.messageStorage
          (answers FAR_FUTURE_EPOCH s.messageStorage s.world))
        ((processor FAR_FUTURE_EPOCH).afterLoad forkInfo
          (answers FAR_FUTURE_EPOCH s.messageStorage s.world) s.world s) := by
  exact (regular fun f member => ⟨_, read_signed (signed f member)⟩).load_ok

/-- A first load finds the message of the file, whatever else the libraries give. -/
theorem newMessages_first {σ : Type} {p : MessagesProcessor σ} {x : Answers} (folder : x.folder = [file])
    (checksum : p.crypto.sha256 file.content = fileChecksum) :
    p.newMessages forkInfo .fresh x = [stored] := by
  have text : file.content ≠ "" := textOf_ne_empty message.textual
  have read : p.fileMessage file.content = .ok (some message) := fileMessage_toJson message
  have unseen : p.isSeen (opening forkInfo .fresh x.now).messagesMetadata file.content = false := rfl
  have opened : p.opened (opening forkInfo .fresh x.now).messagesMetadata file = .message message := by
    rw [opened_of_text text unseen, read]
  unfold newMessages
  rw [folder, List.flatMap_singleton, newMessage_of_opened opened, checksum]
  rfl

/-- The first load stores the message of the file. -/
theorem stores_first {now : Int} : ((processor FAR_FUTURE_EPOCH).storageAfter forkInfo .fresh
    (answers FAR_FUTURE_EPOCH .fresh ⟨now, [file]⟩)).Stores stored := by
  refine (stores_storageAfter MessageStorage.aligned_fresh).mpr (.inl ?_)
  rw [verifiedMessages_signed fun f member => .inl (List.mem_singleton.mp member),
    newMessages_first rfl sha256_file]
  rfl

/-- A file without content. -/
def blank : MessageFile := ⟨"blank.json", ""⟩

/-- A file without content does not change what is asked. -/
theorem infos_blank : (answers exit_epoch .fresh ⟨1, [file, blank]⟩).infos =
    (answers exit_epoch .fresh ⟨1, [file]⟩).infos := by
  have nothing : (processor exit_epoch).newMessage (opening forkInfo .fresh 1).messagesMetadata
      forkInfo.currentVersion blank = [] := by
    unfold newMessage opened
    rw [if_pos (show blank.content = "" from rfl)]
  unfold answers newMessages
  simp only [List.flatMap_cons, List.flatMap_nil, nothing, List.append_nil]

/-- **The blank file is marked, and the load stores what it stores without it.** -/
theorem load_isolated_blank : ∃ stats s', (processor FAR_FUTURE_EPOCH).loadToMemoryStorage forkInfo
      (.fresh ⟨1, [file, blank]⟩) = .ok stats s' ∧ "blank.json" ∈ s'.invalidExitMessageFiles ∧
    ∃ stats' t', (processor FAR_FUTURE_EPOCH).loadToMemoryStorage forkInfo (.fresh ⟨1, [file]⟩) =
      .ok stats' t' ∧ t'.messageStorage = s'.messageStorage := by
  have read : (processor FAR_FUTURE_EPOCH).fileMessage file.content = .ok (some message) :=
    fileMessage_toJson message
  have nothing : (processor FAR_FUTURE_EPOCH).fileMessage blank.content = .ok none := by
    refine fileMessage_none.mpr (.inl ?_)
    exact Option.isNone_iff_eq_none.mp (by decide +kernel)
  have both : (processor FAR_FUTURE_EPOCH).Regular forkInfo (.fresh ⟨1, [file, blank]⟩)
      (answers FAR_FUTURE_EPOCH .fresh ⟨1, [file, blank]⟩) ⟨1, [file, blank]⟩ := by
    refine regular fun other member => ?_
    rcases List.mem_pair.mp member with rfl | rfl
    · exact ⟨_, read⟩
    · exact ⟨_, nothing⟩
  have one : (processor FAR_FUTURE_EPOCH).Regular forkInfo (.fresh ⟨1, [file]⟩)
      (answers FAR_FUTURE_EPOCH .fresh ⟨1, [file]⟩) ⟨1, [file]⟩ := by
    refine regular fun other member => ?_
    rw [List.mem_singleton.mp member]
    exact ⟨_, read⟩
  obtain ⟨stats, s', loaded, names, isolated⟩ := load_isolated both
  have marks : (processor FAR_FUTURE_EPOCH).isBadIn forkInfo .fresh
      (answers FAR_FUTURE_EPOCH .fresh ⟨1, [file, blank]⟩) blank = true := isBad_iff.mpr (.empty rfl)
  have same : (processor FAR_FUTURE_EPOCH).SameButBad forkInfo .fresh
      (answers FAR_FUTURE_EPOCH .fresh ⟨1, [file, blank]⟩) (answers FAR_FUTURE_EPOCH .fresh ⟨1, [file]⟩) := by
    refine ⟨rfl, rfl, rfl, ?_, fun _ _ _ _ => by rw [infos_blank]⟩
    have alike : (processor FAR_FUTURE_EPOCH).isBadIn forkInfo .fresh
        (answers FAR_FUTURE_EPOCH .fresh ⟨1, [file]⟩) file =
        (processor FAR_FUTURE_EPOCH).isBadIn forkInfo .fresh
          (answers FAR_FUTURE_EPOCH .fresh ⟨1, [file, blank]⟩) file := by
      unfold isBadIn
      rw [infos_blank]
      rfl
    unfold goodFiles
    show [file].filter _ = [file, blank].filter _
    simp only [List.filter_cons, List.filter_nil, alike, marks]
    rfl
  refine ⟨stats, s', loaded, (names "blank.json").mpr ⟨blank, by simp [answers], rfl, .empty rfl⟩, ?_⟩
  exact isolated _ _ _ rfl same one

/-- A JSON value that is neither an object nor an array. -/
def seven : MessageFile := ⟨"seven.json", "7"⟩

theorem seven_thrown :
    ∃ failure, (processor FAR_FUTURE_EPOCH).fileMessage seven.content = .error failure := by
  have found : (Json.parse seven.content).isSome = true := by decide +kernel
  have key : ((Json.parse seven.content).bind fun json => json.hasKey "crypto") = none := by
    decide +kernel
  obtain ⟨json, parsed⟩ := Option.isSome_iff_exists.mp found
  rw [parsed] at key
  exact fileMessage_error.mpr ⟨json, parsed, key⟩

/-- A load does not resolve with a primitive value in the folder, unless it has been seen. -/
theorem load_seven_ne_ok {s s' : MessagesState Moment} {stats : LoadStats} (inside : seven ∈ s.world.folder)
    (unseen : ∀ x : Answers, (processor FAR_FUTURE_EPOCH).isSeen
      (opening forkInfo s.messageStorage x.now).messagesMetadata seven.content = false) :
    (processor FAR_FUTURE_EPOCH).loadToMemoryStorage forkInfo s ≠ .ok stats s' := by
  intro loaded
  obtain ⟨x, w, told, orderly, -, -⟩ := load_ok_iff.mp loaded
  obtain ⟨-, folder⟩ := of_told told
  rw [← folder] at inside
  obtain ⟨failure, thrown⟩ := seven_thrown
  refine orderly.opened seven inside failure ?_
  have text : seven.content ≠ "" := by decide
  rw [opened_of_text text (unseen x), thrown]

/-- The message without its signature. -/
def unsigned : ExitMessage := { message with signature := "0x" }

def unsignedFile : MessageFile := ⟨"unsigned.json", textOf unsigned.toJson⟩

theorem unsigned_invalid : (processor exit_epoch).isValidSignature
    ⟨false, CAPELLA_FORK_VERSION, genesis, forkState⟩ VALIDATOR_PUB_KEY unsigned = .ok false := by
  have other : bytes unsigned.signature ≠ bytes signature := by
    unfold bytes
    decide +kernel
  have rejects (root : Bytes) :
      blsVerify (bytes VALIDATOR_PUB_KEY) root (bytes unsigned.signature) = false :=
    decide_eq_false fun same => other same.2.2
  show Except.ok (blsVerify _ _ _ || blsVerify _ _ _) = _
  rw [rejects, rejects]
  rfl

/-- The file of a validator that is exiting is not bad. -/
theorem badFiles_unsigned : (processor "30000").badFiles forkInfo .fresh
    (answers "30000" .fresh ⟨1, [unsignedFile]⟩) = [] := by
  refine List.eq_nil_iff_forall_not_mem.mpr fun name inside => ?_
  obtain ⟨file, member, -, bad⟩ := mem_badFiles.mp inside
  have same : file = unsignedFile := List.mem_singleton.mp member
  rw [same] at bad
  have text : unsignedFile.content ≠ "" := textOf_ne_empty unsigned.textual
  have opened : (processor "30000").openedIn forkInfo .fresh
      (answers "30000" .fresh ⟨1, [unsignedFile]⟩) unsignedFile = .message unsigned := by
    refine (opened_of_text text isSeen_fresh).trans ?_
    rw [show (processor "30000").fileMessage unsignedFile.content = _ from fileMessage_toJson unsigned]
  have new : (⟨unsigned, ⟨(processor "30000").crypto.sha256 unsignedFile.content,
      unsignedFile.filename, forkInfo.currentVersion⟩⟩ : ExitMessageWithMetadata) ∈
      (processor "30000").newMessages forkInfo .fresh (answers "30000" .fresh ⟨1, [unsignedFile]⟩) :=
    mem_newMessages.mpr ⟨unsignedFile, List.mem_singleton_self _, opened, rfl⟩
  have info := known new
  unfold openedIn at opened
  unfold isBadIn isBad checked at bad
  rw [opened] at bad
  dsimp only at bad
  rw [show unsigned.message.validator_index = "828943" from rfl, info] at bad
  dsimp only at bad
  have exiting : (validator "30000").toInfo.isExiting = true := by decide
  rw [if_pos exiting] at bad
  cases bad

/-- **A primitive value rejects the whole load, and the signature for an exiting validator is not looked
at.** -/
theorem load_not_isolated :
    (∀ stats s', (processor FAR_FUTURE_EPOCH).loadToMemoryStorage forkInfo (.fresh ⟨1, [seven]⟩) ≠
      .ok stats s') ∧
    ∃ stats s', (processor "30000").loadToMemoryStorage forkInfo (.fresh ⟨1, [unsignedFile]⟩) =
        .ok stats s' ∧ s'.invalidExitMessageFiles = [] ∧
      (processor "30000").fileMessage unsignedFile.content = .ok (some unsigned) ∧
      (processor "30000").isValidSignature ⟨false, CAPELLA_FORK_VERSION, genesis, forkState⟩
        VALIDATOR_PUB_KEY unsigned = .ok false := by
  refine ⟨fun _ _ => load_seven_ne_ok (List.mem_singleton_self seven) fun _ => isSeen_fresh, ?_⟩
  have read := fileMessage_toJson (p := processor "30000") unsigned
  have answered : (processor "30000").Regular forkInfo (.fresh ⟨1, [unsignedFile]⟩)
      (answers "30000" .fresh ⟨1, [unsignedFile]⟩) ⟨1, [unsignedFile]⟩ := by
    refine regular fun file member => ?_
    rw [List.mem_singleton.mp member]
    exact ⟨_, read⟩
  have loaded := answered.load_ok
  exact ⟨_, _, loaded, afterLoad_invalidExitMessageFiles.trans badFiles_unsigned, read, unsigned_invalid⟩

end HoleskyFixture

end ValidatorEjector
