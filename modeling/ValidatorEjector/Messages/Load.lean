/-
**One load, in closed form.**

A load is a cycle of the storage: it sees the files that are stored already, drops what it has not seen,
and writes the messages of the other files that pass their check.

* `opened`, `checked` — what the two loops make of a file and of a message.
* `loadFile_turns`, `verifyMessage_turns` — the turns of the two loops.
* `Answers` — what a load reads and is told; `Told` — the world gives these answers.
* `seen`, `newMessages`, `verifiedMessages`, `storageAfter` — what it makes of them.
* `load_ok_iff` — a load resolves exactly when it is answered and no file throws, and with this;
  `load_failed` — what it has done when it fails.
* `table_storageAfter` — the storage goes through a cycle of the table.
-/

import ValidatorEjector.Messages.Processor
import ValidatorEjector.Messages.Table

namespace ValidatorEjector

open Js Library Library.Program

namespace MessagesProcessor

variable {σ : Type}

/-! ### What becomes of a file -/

section Fate

variable (p : MessagesProcessor σ) (metadata : OrderedMap String ExitMessageWithMetadata)

/-- A stored message has the checksum of the content. -/
def isSeen (content : String) : Bool :=
  metadata.values.any fun m => m.meta.fileChecksum = p.crypto.sha256 content

/-- What the first loop makes of a file. -/
inductive Opened
  | bad
  | seen
  | thrown (failure : Failure)
  | message (message : ExitMessage)

def opened (file : MessageFile) : Opened :=
  if file.content = "" then .bad
  else if p.isSeen metadata file.content then .seen
  else
    match p.fileMessage file.content with
    | .error failure => .thrown failure
    | .ok none => .bad
    | .ok (some message) => .message message

/-- What the second loop makes of a message. -/
inductive Checked
  | bad
  | exiting
  | thrown (failure : Failure)
  | accepted

variable (c : SigningContext) (registry : String → Option ValidatorInfo)

def checked (m : ExitMessage) : Checked :=
  match registry m.message.validator_index with
  | none => .bad
  | some info =>
    if info.isExiting then .exiting
    else
      match p.isValidSignature c info.pubKey m with
      | .error failure => .thrown failure
      | .ok false => .bad
      | .ok true => .accepted

/-- What the first loop pushes for a file. -/
def newMessage (forkVersion : String) (file : MessageFile) : List ExitMessageWithMetadata :=
  match p.opened metadata file with
  | .message message =>
    [⟨message, ⟨p.crypto.sha256 file.content, file.filename, forkVersion⟩⟩]
  | _ => []

/-- What the second loop pushes for a message. -/
def verifiedMessage (m : ExitMessageWithMetadata) : List ExitMessageWithMetadata :=
  match p.checked c registry m.data with
  | .accepted => [m]
  | _ => []

end Fate

section Opened

variable {p : MessagesProcessor σ} {metadata : OrderedMap String ExitMessageWithMetadata}
  {file : MessageFile}

theorem opened_of_text (text : file.content ≠ "") (unseen : p.isSeen metadata file.content = false) :
    p.opened metadata file = match p.fileMessage file.content with
      | .error failure => .thrown failure
      | .ok none => .bad
      | .ok (some message) => .message message := by
  unfold opened
  rw [if_neg text, unseen]
  rfl

/-- A file whose message is read is not empty, not stored, and holds the message. -/
theorem opened_message {message : ExitMessage}
    (opened : p.opened metadata file = .message message) :
    file.content ≠ "" ∧ p.isSeen metadata file.content = false ∧
      p.fileMessage file.content = .ok (some message) := by
  by_cases empty : file.content = ""
  · unfold MessagesProcessor.opened at opened
    rw [if_pos empty] at opened
    cases opened
  cases unseen : p.isSeen metadata file.content with
  | true =>
    unfold MessagesProcessor.opened at opened
    simp [empty, unseen] at opened
  | false =>
    rw [opened_of_text empty unseen] at opened
    refine ⟨empty, rfl, ?_⟩
    cases read : p.fileMessage file.content with
    | error failure => rw [read] at opened; cases opened
    | ok content =>
      cases content with
      | none => rw [read] at opened; cases opened
      | some found =>
        rw [read] at opened
        cases opened
        rfl

theorem newMessage_of_opened {message : ExitMessage} {forkVersion : String}
    (opened : p.opened metadata file = .message message) : p.newMessage metadata forkVersion file =
      [⟨message, ⟨p.crypto.sha256 file.content, file.filename, forkVersion⟩⟩] := by
  unfold newMessage
  rw [opened]

theorem verifiedMessage_of_checked {c : SigningContext} {registry : String → Option ValidatorInfo}
    {m : ExitMessageWithMetadata}
    (accepted : p.checked c registry m.data = .accepted) : p.verifiedMessage c registry m = [m] := by
  unfold verifiedMessage
  rw [accepted]

end Opened

/-- The bad names with one more. -/
def marked (files : List String) (filename : String) : List String :=
  if filename ∈ files then files else files ++ [filename]

/-- The bad names after a file is opened. -/
def badFile (p : MessagesProcessor σ) (metadata : OrderedMap String ExitMessageWithMetadata)
    (files : List String) (file : MessageFile) : List String :=
  match p.opened metadata file with
  | .bad => marked files file.filename
  | _ => files

/-- The bad names after a message is checked. -/
def badMessage (p : MessagesProcessor σ) (c : SigningContext)
    (registry : String → Option ValidatorInfo) (files : List String) (m : ExitMessageWithMetadata) :
    List String :=
  match p.checked c registry m.data with
  | .bad => marked files m.meta.filename
  | _ => files

/-- The file with the checksum is seen. -/
def touchFile (p : MessagesProcessor σ) (s : MessageStorage) (file : MessageFile) : MessageStorage :=
  if file.content = "" then s else (s.touchMessageWithChecksum (p.crypto.sha256 file.content)).2

/-! ### The turns of the loops -/

section Turns

variable {p : MessagesProcessor σ} {metadata : OrderedMap String ExitMessageWithMetadata}
  {forkVersion : String}

/-- The state after a file. -/
def afterFile (p : MessagesProcessor σ) (metadata : OrderedMap String ExitMessageWithMetadata)
    (s : MessagesState σ) (file : MessageFile) : MessagesState σ :=
  { s with
    messageStorage := p.touchFile s.messageStorage file
    invalidExitMessageFiles := p.badFile metadata s.invalidExitMessageFiles file }

/-- The state after a message. -/
def afterMessage (p : MessagesProcessor σ) (v : Verification) (s : MessagesState σ)
    (m : ExitMessageWithMetadata) : MessagesState σ :=
  { s with invalidExitMessageFiles :=
      p.badMessage v.toSigningContext v.validatorsInfoMap.get? s.invalidExitMessageFiles m }

theorem touch_fst {s : MessageStorage} (content : String) :
    (s.touchMessageWithChecksum (p.crypto.sha256 content)).1 = p.isSeen s.messagesMetadata content := by
  rw [MessageStorage.touchMessageWithChecksum_eq]
  unfold isSeen MessageStorage.findByChecksum
  cases found : s.messagesMetadata.values.find? _ with
  | none =>
    rw [eq_comm, List.any_eq_false]
    exact List.find?_eq_none.mp found
  | some m =>
    rw [eq_comm, List.any_eq_true]
    exact ⟨m, List.mem_of_find?_eq_some found, List.find?_some (p := fun m : ExitMessageWithMetadata =>
      m.meta.fileChecksum = p.crypto.sha256 content) found⟩

theorem touch_snd_of_unseen {s : MessageStorage} {content : String}
    (unseen : p.isSeen s.messagesMetadata content = false) :
    (s.touchMessageWithChecksum (p.crypto.sha256 content)).2 = s := by
  rw [← touch_fst, MessageStorage.touchMessageWithChecksum_eq] at unseen
  rw [MessageStorage.touchMessageWithChecksum_eq]
  cases found : s.findByChecksum (p.crypto.sha256 content) with
  | none => rfl
  | some m => rw [found] at unseen; cases unseen

/-- **The turn of a file.** -/
theorem loadFile_turns : Turns (p.loadFile forkVersion)
    (fun file => ∀ failure, p.opened metadata file ≠ .thrown failure)
    (p.newMessage metadata forkVersion) (p.afterFile metadata)
    fun s => s.messageStorage.messagesMetadata = metadata where
  keeps file s stored := by
    show (p.touchFile s.messageStorage file).messagesMetadata = metadata
    unfold touchFile
    by_cases empty : file.content = ""
    · rw [if_pos empty]
      exact stored
    · rw [if_neg empty, MessageStorage.messagesMetadata_touch]
      exact stored
  turn file s stored bs s' := by
    subst stored
    unfold loadFile afterFile newMessage touchFile badFile
    by_cases empty : file.content = ""
    · rw [if_pos empty, if_pos empty]
      have bad : p.opened s.messageStorage.messagesMetadata file = .bad := if_pos empty
      rw [bad]
      exact ok_iff_of_ok rfl (fun _ other => by cases other) bs s'
    rw [if_neg empty, if_neg empty]
    have touched : (onStorage fun u => u.touchMessageWithChecksum (p.crypto.sha256 file.content)) s
        = .ok (p.isSeen s.messageStorage.messagesMetadata file.content) { s with
            messageStorage := (s.messageStorage.touchMessageWithChecksum
              (p.crypto.sha256 file.content)).2 } := by
      rw [← touch_fst]
      rfl
    rw [bind_of_ok touched]
    cases unseen : p.isSeen s.messageStorage.messagesMetadata file.content with
    | true =>
      have seen : p.opened s.messageStorage.messagesMetadata file = .seen := by
        simp [opened, empty, unseen]
      rw [seen]
      exact ok_iff_of_ok rfl (fun _ other => by cases other) bs s'
    | false =>
      rw [touch_snd_of_unseen unseen, if_neg Bool.false_ne_true]
      cases message : p.fileMessage file.content with
      | error failure =>
        have thrown : p.opened s.messageStorage.messagesMetadata file = .thrown failure := by
          simp [opened, empty, unseen, message]
        rw [thrown]
        exact ok_iff_of_error rfl (fun fine => fine failure rfl) bs s'
      | ok content =>
        cases content with
        | none =>
          have bad : p.opened s.messageStorage.messagesMetadata file = .bad := by
            simp [opened, empty, unseen, message]
          rw [bad]
          exact ok_iff_of_ok rfl (fun _ other => by cases other) bs s'
        | some m =>
          have read : p.opened s.messageStorage.messagesMetadata file = .message m := by
            simp [opened, empty, unseen, message]
          rw [read]
          exact ok_iff_of_ok rfl (fun _ other => by cases other) bs s'

/-- **The turn of a message.** -/
theorem verifyMessage_turns {v : Verification} : Turns (p.verifyMessage v)
    (fun m => ∀ failure, p.checked v.toSigningContext v.validatorsInfoMap.get? m.data ≠ .thrown failure)
    (p.verifiedMessage v.toSigningContext v.validatorsInfoMap.get?) (p.afterMessage v)
    fun _ => True where
  keeps _ _ _ := trivial
  turn m s _ bs s' := by
    unfold verifyMessage afterMessage verifiedMessage badMessage checked ExitMessageWithMetadata.index
    cases v.validatorsInfoMap.get? m.data.message.validator_index with
    | none =>
      exact ok_iff_of_ok rfl (fun _ other => by cases other) bs s'
    | some info =>
      dsimp only
      cases info.isExiting with
      | true =>
        exact ok_iff_of_ok rfl (fun _ other => by cases other) bs s'
      | false =>
        cases p.isValidSignature v.toSigningContext info.pubKey m.data with
        | error failure =>
          exact ok_iff_of_error rfl (fun fine => fine failure rfl) bs s'
        | ok valid =>
          cases valid with
          | true =>
            exact ok_iff_of_ok rfl (fun _ other => by cases other) bs s'
          | false =>
            exact ok_iff_of_ok rfl (fun _ other => by cases other) bs s'

end Turns

/-! ### The answers of a load -/

/-- What a load reads and is told. -/
structure Answers where
  now : Int
  folder : List MessageFile
  genesis : Genesis
  state : ForkState
  infos : OrderedMap String ValidatorInfo

/-- In webhook mode only the clock is read. -/
def Answers.unasked (now : Int) : Answers := ⟨now, [], ⟨"", "", ""⟩, ⟨"", "", ""⟩, .empty⟩

section Answered

variable (p : MessagesProcessor σ) (forkInfo : ForkVersionInfo) (s : MessageStorage) (x : Answers)

/-- What the signatures are checked with. -/
def Answers.context : SigningContext :=
  ⟨forkInfo.isDencun, forkInfo.capellaVersion, x.genesis, x.state⟩

/-- The storage when the files are opened. -/
def opening (now : Int) : MessageStorage :=
  (s.startUpdateCycle now).removeOldForkVersionMessages forkInfo.currentVersion

/-- The messages of the files that are not stored. -/
def newMessages : List ExitMessageWithMetadata :=
  x.folder.flatMap (p.newMessage (opening forkInfo s x.now).messagesMetadata forkInfo.currentVersion)

/-- Those that pass their check. -/
def verifiedMessages : List ExitMessageWithMetadata :=
  (p.newMessages forkInfo s x).flatMap (p.verifiedMessage (x.context forkInfo) x.infos.get?)

/-- The storage without what the load has not seen, and how much that was. -/
def pruned : Nat × MessageStorage := (x.folder.foldl p.touchFile (opening forkInfo s x.now)).removeOldMessages

/-- **What is stored after a load.** -/
def storageAfter : MessageStorage :=
  ((p.pruned forkInfo s x).2.updateMessages (p.verifiedMessages forkInfo s x)).2

/-- What a load returns. -/
def statsAfter : LoadStats :=
  let stats := ((p.pruned forkInfo s x).2.updateMessages (p.verifiedMessages forkInfo s x)).1
  ⟨stats.updated, stats.added, (p.pruned forkInfo s x).1⟩

/-- The names of the bad files. -/
def badFiles : List String :=
  (p.newMessages forkInfo s x).foldl (p.badMessage (x.context forkInfo) x.infos.get?)
    (x.folder.foldl (p.badFile (opening forkInfo s x.now).messagesMetadata) [])

/-- No file of the folder throws. -/
structure Orderly : Prop where
  opened : ∀ file ∈ x.folder, ∀ failure,
    p.opened (opening forkInfo s x.now).messagesMetadata file ≠ .thrown failure
  checked : ∀ m ∈ p.newMessages forkInfo s x, ∀ failure,
    p.checked (x.context forkInfo) x.infos.get? m.data ≠ .thrown failure

/-- **The world gives these answers** to a load, from one state of it to another. -/
inductive Told : σ → σ → Prop
  | webhook {w w' : σ} (absent : missing p.MESSAGES_LOCATION = true)
      (now : p.outside.now w = (x.now, w')) (unasked : x = .unasked x.now) : Told w w'
  | messages {w w₁ w₂ w₃ w₄ w₅ : σ} (present : missing p.MESSAGES_LOCATION = false)
      (now : p.outside.now w = (x.now, w₁))
      (folder : p.outside.readFolder (p.MESSAGES_LOCATION.getD "") w₁ = .ok x.folder w₂)
      (genesis : p.outside.cl.genesis w₂ = .ok x.genesis w₃)
      (state : p.outside.cl.state w₃ = .ok x.state w₄)
      (infos : p.outside.cl.fetchValidatorsInfoBatch
        ((p.newMessages forkInfo s x).map ExitMessageWithMetadata.index).eraseDups
        p.VALIDATORS_BATCH_SIZE "head" w₄ = .ok x.infos w₅) : Told w w₅

end Answered

/-- The state after a load. -/
def afterLoad (p : MessagesProcessor σ) (forkInfo : ForkVersionInfo) (x : Answers) (world : σ)
    (s : MessagesState σ) : MessagesState σ :=
  { s with
    world := world
    messageStorage := p.storageAfter forkInfo s.messageStorage x
    invalidExitMessageFiles := p.badFiles forkInfo s.messageStorage x
    exitMessages := ⟨(p.storageAfter forkInfo s.messageStorage x).size,
      (p.badFiles forkInfo s.messageStorage x).length⟩
    journal :=
      if missing p.MESSAGES_LOCATION then s.journal
      else s.journal ++ [.verified ⟨x.context forkInfo, x.infos⟩] }

@[simp] theorem afterLoad_messageStorage {p : MessagesProcessor σ} {forkInfo : ForkVersionInfo}
    {x : Answers} {w : σ} {s : MessagesState σ} :
    (p.afterLoad forkInfo x w s).messageStorage = p.storageAfter forkInfo s.messageStorage x := rfl

@[simp] theorem afterLoad_invalidExitMessageFiles {p : MessagesProcessor σ} {forkInfo : ForkVersionInfo}
    {x : Answers} {w : σ} {s : MessagesState σ} :
    (p.afterLoad forkInfo x w s).invalidExitMessageFiles = p.badFiles forkInfo s.messageStorage x := rfl

/-- The world gives one answer. -/
theorem Told.unique {p : MessagesProcessor σ} {forkInfo : ForkVersionInfo} {s : MessageStorage}
    {x y : Answers} {w u v : σ} (told : p.Told forkInfo s x w u) (told' : p.Told forkInfo s y w v) :
    x = y ∧ u = v := by
  obtain ⟨now, folder, genesis, state, infos⟩ := x
  obtain ⟨now', folder', genesis', state', infos'⟩ := y
  cases told with
  | webhook absent asked unasked =>
    cases told' with
    | messages present => exact absurd (present.symm.trans absent) Bool.false_ne_true
    | webhook _ asked' unasked' =>
      obtain ⟨rfl, rfl⟩ := Prod.mk.inj (asked.symm.trans asked')
      exact ⟨unasked.trans unasked'.symm, rfl⟩
  | messages present asked read told₁ told₂ told₃ =>
    cases told' with
    | webhook absent => exact absurd (present.symm.trans absent) Bool.false_ne_true
    | messages _ asked' read' told₁' told₂' told₃' =>
      obtain ⟨rfl, rfl⟩ := Prod.mk.inj (asked.symm.trans asked')
      obtain ⟨rfl, rfl⟩ := EStateM.Result.ok.inj (read.symm.trans read')
      obtain ⟨rfl, rfl⟩ := EStateM.Result.ok.inj (told₁.symm.trans told₁')
      obtain ⟨rfl, rfl⟩ := EStateM.Result.ok.inj (told₂.symm.trans told₂')
      obtain ⟨rfl, rfl⟩ := EStateM.Result.ok.inj (told₃.symm.trans told₃')
      exact ⟨rfl, rfl⟩

/-! ### A load resolves -/

section Resolve

variable {p : MessagesProcessor σ} {forkInfo : ForkVersionInfo} {x : Answers} {s s' : MessagesState σ}
  {stats : LoadStats}

theorem onWorld_ok_iff {α : Type} {request : EStateM Failure σ α} {a : α} :
    onWorld request s = .ok a s' ↔ ∃ w, request s.world = .ok a w ∧ s' = { s with world := w } := by
  unfold onWorld onPart
  cases request s.world with
  | error e w =>
    exact iff_of_false (fun same => by cases same) fun ⟨_, same, _⟩ => by cases same
  | ok b w =>
    constructor
    · intro same
      cases same
      exact ⟨w, rfl, rfl⟩
    · rintro ⟨_, same, rfl⟩
      cases same
      rfl

theorem foldl_afterFile (metadata : OrderedMap String ExitMessageWithMetadata)
    (files : List MessageFile) (s : MessagesState σ) : files.foldl (p.afterFile metadata) s = { s with
      messageStorage := files.foldl p.touchFile s.messageStorage
      invalidExitMessageFiles := files.foldl (p.badFile metadata) s.invalidExitMessageFiles } := by
  induction files generalizing s with
  | nil => rfl
  | cons file files ih =>
    rw [List.foldl_cons, ih]
    rfl

theorem foldl_afterMessage (v : Verification) (messages : List ExitMessageWithMetadata)
    (s : MessagesState σ) : messages.foldl (p.afterMessage v) s = { s with
      invalidExitMessageFiles := messages.foldl
        (p.badMessage v.toSigningContext v.validatorsInfoMap.get?) s.invalidExitMessageFiles } := by
  induction messages generalizing s with
  | nil => rfl
  | cons m messages ih =>
    rw [List.foldl_cons, ih]
    rfl

/-- The first loop, over a folder that is read. -/
theorem loadNewMessages_ok_iff {forkVersion : String} {new : List ExitMessageWithMetadata}
    (present : missing p.MESSAGES_LOCATION = false) :
    p.loadNewMessages forkVersion s = .ok new s' ↔
      ∃ folder w, p.outside.readFolder (p.MESSAGES_LOCATION.getD "") s.world = .ok folder w ∧
        (∀ file ∈ folder, ∀ failure,
          p.opened s.messageStorage.messagesMetadata file ≠ .thrown failure) ∧
        new = folder.flatMap (p.newMessage s.messageStorage.messagesMetadata forkVersion) ∧
        s' = { s with
          world := w
          messageStorage := folder.foldl p.touchFile s.messageStorage
          invalidExitMessageFiles := folder.foldl (p.badFile s.messageStorage.messagesMetadata)
            s.invalidExitMessageFiles } := by
  unfold loadNewMessages
  rw [present, if_neg Bool.false_ne_true, bind_ok]
  constructor
  · rintro ⟨folder, s₁, read, run⟩
    obtain ⟨w, answer, rfl⟩ := onWorld_ok_iff.mp read
    have ends := (loadFile_turns.collect folder { s with world := w } rfl new s').mp run
    rw [foldl_afterFile] at ends
    exact ⟨folder, w, answer, ends⟩
  · rintro ⟨folder, w, answer, rest⟩
    refine ⟨folder, { s with world := w }, onWorld_ok_iff.mpr ⟨w, answer, rfl⟩, ?_⟩
    refine (loadFile_turns.collect folder { s with world := w } rfl new s').mpr ?_
    rw [foldl_afterFile]
    exact rest

/-- The second loop, with the answers of the consensus node. -/
theorem verify_ok_iff {messages ms : List ExitMessageWithMetadata} {isDencun : Bool}
    {capellaForkVersion : String} (present : missing p.MESSAGES_LOCATION = false) :
    p.verify messages isDencun capellaForkVersion s = .ok ms s' ↔
      ∃ genesis state infos w₁ w₂ w₃, p.outside.cl.genesis s.world = .ok genesis w₁ ∧
        p.outside.cl.state w₁ = .ok state w₂ ∧
        p.outside.cl.fetchValidatorsInfoBatch
          (messages.map ExitMessageWithMetadata.index).eraseDups p.VALIDATORS_BATCH_SIZE "head" w₂
            = .ok infos w₃ ∧
        (∀ m ∈ messages, ∀ failure, p.checked ⟨isDencun, capellaForkVersion, genesis, state⟩ infos.get?
          m.data ≠ .thrown failure) ∧
        ms = messages.flatMap
          (p.verifiedMessage ⟨isDencun, capellaForkVersion, genesis, state⟩ infos.get?) ∧
        s' = { s with
          world := w₃
          invalidExitMessageFiles := messages.foldl
            (p.badMessage ⟨isDencun, capellaForkVersion, genesis, state⟩ infos.get?)
            s.invalidExitMessageFiles
          journal := s.journal ++
            [.verified ⟨⟨isDencun, capellaForkVersion, genesis, state⟩, infos⟩] } := by
  unfold verify
  rw [present, if_neg Bool.false_ne_true, bind_ok]
  constructor
  · rintro ⟨genesis, s₁, asked, rest⟩
    obtain ⟨w₁, answer, rfl⟩ := onWorld_ok_iff.mp asked
    obtain ⟨state, s₂, asked, rest⟩ := bind_ok.mp rest
    obtain ⟨w₂, answer', rfl⟩ := onWorld_ok_iff.mp asked
    obtain ⟨infos, s₃, asked, rest⟩ := bind_ok.mp rest
    obtain ⟨w₃, answer'', rfl⟩ := onWorld_ok_iff.mp asked
    obtain ⟨_, _, noted, run⟩ := bind_ok.mp rest
    cases noted
    have ends := (verifyMessage_turns.collect messages _ trivial ms s').mp run
    rw [foldl_afterMessage] at ends
    exact ⟨genesis, state, infos, w₁, w₂, w₃, answer, answer', answer'', ends⟩
  · rintro ⟨genesis, state, infos, w₁, w₂, w₃, answer, answer', answer'', rest⟩
    refine ⟨genesis, _, onWorld_ok_iff.mpr ⟨w₁, answer, rfl⟩, ?_⟩
    refine bind_ok.mpr ⟨state, _, onWorld_ok_iff.mpr ⟨w₂, answer', rfl⟩, ?_⟩
    refine bind_ok.mpr ⟨infos, _, onWorld_ok_iff.mpr ⟨w₃, answer'', rfl⟩, ?_⟩
    refine bind_ok.mpr ⟨(), _, rfl, ?_⟩
    refine (verifyMessage_turns.collect messages _ trivial ms s').mpr ?_
    rw [foldl_afterMessage]
    exact rest

/-- The part after the loops always resolves. -/
theorem finish_run (verified : List ExitMessageWithMetadata) (s : MessagesState σ) :
    (do
      let removed ← onStorage (·.removeOldMessages)
      let stats ← onStorage (·.updateMessages verified)
      updateExitMessages
      pure ⟨stats.updated, stats.added, removed⟩ : Run σ LoadStats) s =
      let removed := s.messageStorage.removeOldMessages
      let updated := removed.2.updateMessages verified
      .ok ⟨updated.1.updated, updated.1.added, removed.1⟩ { s with
        messageStorage := updated.2
        exitMessages := ⟨updated.2.size, s.invalidExitMessageFiles.length⟩ } := rfl

/-- **A load resolves exactly when the world answers it and no file throws**, with what these answers
make of the storage. -/
theorem load_ok_iff : p.loadToMemoryStorage forkInfo s = .ok stats s' ↔
    ∃ x w, p.Told forkInfo s.messageStorage x s.world w ∧ p.Orderly forkInfo s.messageStorage x ∧
      stats = p.statsAfter forkInfo s.messageStorage x ∧ s' = p.afterLoad forkInfo x w s := by
  obtain ⟨now, w₁, clock⟩ : ∃ now w₁, p.outside.now s.world = (now, w₁) := ⟨_, _, rfl⟩
  have started : p.startCycle forkInfo.currentVersion s = .ok () { s with
      world := w₁
      invalidExitMessageFiles := []
      messageStorage := (s.messageStorage.startUpdateCycle now).removeOldForkVersionMessages
        forkInfo.currentVersion } := by
    unfold startCycle
    rw [clock]
  unfold loadToMemoryStorage
  rw [bind_of_ok started]
  cases mode : missing p.MESSAGES_LOCATION with
  | true =>
    have loaded (s : MessagesState σ) : p.loadNewMessages forkInfo.currentVersion s = .ok [] s := by
      unfold loadNewMessages
      rw [if_pos mode]
      rfl
    have checked (s : MessagesState σ) :
        p.verify [] forkInfo.isDencun forkInfo.capellaVersion s = .ok [] s := by
      unfold verify
      rw [if_pos mode]
      rfl
    rw [bind_of_ok (loaded _), bind_of_ok (checked _), finish_run]
    constructor
    · intro run
      cases run
      refine ⟨.unasked now, w₁, .webhook mode clock rfl,
        ⟨List.forall_mem_nil _, List.forall_mem_nil _⟩, rfl, ?_⟩
      unfold afterLoad
      rw [if_pos mode]
      rfl
    · rintro ⟨x, w, told, -, rfl, rfl⟩
      cases told with
      | messages present => rw [mode] at present; cases present
      | webhook _ asked unasked =>
        have empty : x.folder = [] := by
          rw [unasked]
          rfl
        rw [clock] at asked
        cases asked
        unfold afterLoad statsAfter storageAfter pruned verifiedMessages badFiles newMessages
        rw [if_pos mode, empty]
        rfl
  | false =>
    constructor
    · intro run
      obtain ⟨new, s₁, loaded, run⟩ := bind_ok.mp run
      obtain ⟨folder, w₂, read, opened, rfl, rfl⟩ := (loadNewMessages_ok_iff mode).mp loaded
      obtain ⟨verified, s₂, verifies, run⟩ := bind_ok.mp run
      obtain ⟨genesis, state, infos, w₃, w₄, w₅, asked, asked', asked'', checked, rfl, rfl⟩ :=
        (verify_ok_iff mode).mp verifies
      rw [finish_run] at run
      cases run
      refine ⟨⟨now, folder, genesis, state, infos⟩, w₅,
        .messages mode clock read asked asked' asked'', ⟨opened, checked⟩, rfl, ?_⟩
      unfold afterLoad
      rw [mode, if_neg Bool.false_ne_true]
      rfl
    · rintro ⟨x, w, told, orderly, rfl, rfl⟩
      cases told with
      | webhook absent => rw [mode] at absent; cases absent
      | messages _ asked folder genesis state infos =>
        rw [clock] at asked
        cases asked
        refine bind_ok.mpr ⟨_, _, (loadNewMessages_ok_iff mode).mpr
          ⟨_, _, folder, orderly.opened, rfl, rfl⟩, ?_⟩
        refine bind_ok.mpr ⟨_, _, (verify_ok_iff mode).mpr
          ⟨_, _, _, _, _, _, genesis, state, infos, orderly.checked, rfl, rfl⟩, ?_⟩
        rw [finish_run]
        unfold afterLoad
        rw [mode, if_neg Bool.false_ne_true]
        rfl

end Resolve

/-! ### A load fails -/

section Fail

variable {p : MessagesProcessor σ} {forkInfo : ForkVersionInfo} {s s' : MessagesState σ}
  {start : MessageStorage}

/-- Some files of the folder have been touched, and nothing else has happened to the storage. -/
def TouchedOnly (p : MessagesProcessor σ) (start : MessageStorage) (s : MessagesState σ) : Prop :=
  ∃ files : List MessageFile, s.messageStorage = files.foldl p.touchFile start

theorem onWorld_touchedOnly {α : Type} (request : EStateM Failure σ α) :
    Preserves (TouchedOnly p start) (onWorld request) := by
  intro s touched
  unfold onWorld onPart
  cases request s.world with
  | ok _ _ => exact touched
  | error _ _ => exact touched

theorem loadFile_touchedOnly {forkVersion : String} (file : MessageFile) :
    Preserves (TouchedOnly p start) (p.loadFile forkVersion file) := by
  unfold loadFile
  by_cases empty : file.content = ""
  · rw [if_pos empty]
    exact fun s touched => touched
  rw [if_neg empty]
  have touch : Preserves (TouchedOnly p start)
      (onStorage fun u => u.touchMessageWithChecksum (p.crypto.sha256 file.content)) := by
    rintro s ⟨files, touched⟩
    refine ⟨files ++ [file], ?_⟩
    rw [List.foldl_append, ← touched]
    exact (if_neg empty).symm
  refine Triple.bind touch fun seen => ?_
  cases seen with
  | true => exact Preserves.pure
  | false =>
    refine Triple.bind Preserves.ofResult fun read => ?_
    cases read with
    | none => exact fun s touched => touched
    | some message => exact Preserves.pure

theorem verify_touchedOnly {messages : List ExitMessageWithMetadata} {isDencun : Bool}
    {capellaForkVersion : String} :
    Preserves (TouchedOnly p start) (p.verify messages isDencun capellaForkVersion) := by
  unfold verify
  by_cases webhook : missing p.MESSAGES_LOCATION
  · rw [if_pos webhook]
    exact Preserves.pure
  rw [if_neg webhook]
  refine Triple.bind (onWorld_touchedOnly _) fun genesis => ?_
  refine Triple.bind (onWorld_touchedOnly _) fun state => ?_
  refine Triple.bind (onWorld_touchedOnly _) fun infos => ?_
  have noted (occurrence : Occurrence) : Preserves (TouchedOnly p start) (note occurrence) :=
    fun s touched => touched
  refine Triple.bind (noted _) fun _ => Preserves.collect fun m _ => ?_
  unfold verifyMessage
  cases infos.get? m.index with
  | none => exact fun s touched => touched
  | some info =>
    by_cases exiting : info.isExiting
    · simp only [exiting, if_true]
      exact Preserves.pure
    · simp only [exiting, Bool.false_eq_true, if_false]
      refine Triple.bind Preserves.ofResult fun valid => ?_
      cases valid with
      | true => exact Preserves.pure
      | false => exact fun s touched => touched

/-- **A load that fails** has started a cycle, and seen some of the files. -/
theorem load_failed {e : Failure} (failed : p.loadToMemoryStorage forkInfo s = .error e s') :
    p.TouchedOnly (opening forkInfo s.messageStorage (p.outside.now s.world).1) s' := by
  have loading : Preserves (TouchedOnly p (opening forkInfo s.messageStorage (p.outside.now s.world).1))
      (p.loadNewMessages forkInfo.currentVersion) := by
    unfold loadNewMessages
    by_cases webhook : missing p.MESSAGES_LOCATION
    · rw [if_pos webhook]
      exact Preserves.pure
    · rw [if_neg webhook]
      exact Triple.bind (onWorld_touchedOnly _) fun folder =>
        Preserves.collect fun file _ => loadFile_touchedOnly file
  have started : Triple (fun t => t = s) (p.startCycle forkInfo.currentVersion)
      (fun _ => TouchedOnly p (opening forkInfo s.messageStorage (p.outside.now s.world).1))
      (TouchedOnly p (opening forkInfo s.messageStorage (p.outside.now s.world).1)) := by
    rintro _ rfl
    exact ⟨[], rfl⟩
  have whole : Triple (fun t => t = s) (p.loadToMemoryStorage forkInfo) (fun _ _ => True)
      (TouchedOnly p (opening forkInfo s.messageStorage (p.outside.now s.world).1)) := by
    refine Triple.bind started fun _ => ?_
    refine Triple.bind loading fun new => ?_
    refine Triple.bind verify_touchedOnly fun verified => ?_
    exact fun t _ => trivial
  exact whole.error rfl failed

end Fail

/-! ### A cycle of the table -/

/-- The validator of the stored message that was loaded from a file. -/
def seenIndex (p : MessagesProcessor σ) (s : MessageStorage) (file : MessageFile) : Option String :=
  if file.content = "" then none
  else (s.findByChecksum (p.crypto.sha256 file.content)).map ExitMessageWithMetadata.index

/-- The validators whose messages a load sees. -/
def seen (p : MessagesProcessor σ) (forkInfo : ForkVersionInfo) (s : MessageStorage) (x : Answers) :
    List String :=
  x.folder.filterMap (p.seenIndex (opening forkInfo s x.now))

/-- The messages with their keys. -/
def keyed (messages : List ExitMessageWithMetadata) : List (String × ExitMessageWithMetadata) :=
  messages.map fun m => (m.index, m)

section Cycle

variable {p : MessagesProcessor σ} {forkInfo : ForkVersionInfo} {s : MessageStorage} {x : Answers}
  {m : ExitMessageWithMetadata} {i : String}

theorem aligned_opening {now : Int} (aligned : s.Aligned) : (opening forkInfo s now).Aligned :=
  MessageStorage.aligned_removeOldForkVersionMessages aligned

/-- Touching a file changes stamps only. -/
theorem touchFile_messages (file : MessageFile) :
    (p.touchFile s file).messagesMetadata = s.messagesMetadata := by
  unfold touchFile
  by_cases empty : file.content = ""
  · rw [if_pos empty]
  · rw [if_neg empty, MessageStorage.messagesMetadata_touch]

theorem touchFiles_messages (files : List MessageFile) :
    (files.foldl p.touchFile s).messagesMetadata = s.messagesMetadata := by
  induction files generalizing s with
  | nil => rfl
  | cons file files ih => rw [List.foldl_cons, ih, touchFile_messages]

theorem aligned_touchFiles (aligned : s.Aligned) (files : List MessageFile) :
    (files.foldl p.touchFile s).Aligned := by
  induction files generalizing s with
  | nil => exact aligned
  | cons file files ih =>
    refine ih ?_
    unfold touchFile
    by_cases empty : file.content = ""
    · rw [if_pos empty]
      exact aligned
    · rw [if_neg empty]
      exact MessageStorage.aligned_touchMessageWithChecksum aligned

theorem table_touchFile (file : MessageFile) : (p.touchFile s file).table =
    ((p.seenIndex s file).elim s.table fun i => s.table.touch i) := by
  unfold touchFile seenIndex
  by_cases empty : file.content = ""
  · simp [empty]
  · rw [if_neg empty, if_neg empty, MessageStorage.table_touchMessageWithChecksum]
    cases s.findByChecksum (p.crypto.sha256 file.content) with
    | none => rfl
    | some m => rfl

theorem table_touchFiles (files : List MessageFile) : (files.foldl p.touchFile s).table =
    (files.filterMap (p.seenIndex s)).foldl (fun t i => t.touch i) s.table := by
  induction files generalizing s with
  | nil => rfl
  | cons file files ih =>
    have same : p.seenIndex (p.touchFile s file) = p.seenIndex s := by
      funext other
      unfold seenIndex MessageStorage.findByChecksum
      rw [touchFile_messages]
    rw [List.foldl_cons, ih, same, table_touchFile]
    cases found : p.seenIndex s file with
    | none => rw [List.filterMap_cons_none found]; rfl
    | some i => rw [List.filterMap_cons_some found]; rfl

/-- **The storage goes through a cycle of the table.** -/
theorem table_storageAfter (aligned : s.Aligned) : (p.storageAfter forkInfo s x).table =
    (s.table.keep fun m => m.meta.forkVersion = forkInfo.currentVersion).cycle x.now
      (p.seen forkInfo s x) (keyed (p.verifiedMessages forkInfo s x)) := by
  have open_aligned : (opening forkInfo s x.now).Aligned := aligned_opening aligned
  unfold storageAfter pruned Stamped.cycle
  rw [MessageStorage.table_updateMessages,
    MessageStorage.table_removeOldMessages (aligned_touchFiles open_aligned _), table_touchFiles]
  have opened : (opening forkInfo s x.now).table =
      (s.table.keep fun m => m.meta.forkVersion = forkInfo.currentVersion).tick x.now :=
    MessageStorage.table_removeOldForkVersionMessages
  rw [opened]
  rfl

theorem aligned_storageAfter (aligned : s.Aligned) : (p.storageAfter forkInfo s x).Aligned := by
  have open_aligned : (opening forkInfo s x.now).Aligned := aligned_opening aligned
  exact MessageStorage.aligned_updateMessages
    (MessageStorage.aligned_removeOldMessages (aligned_touchFiles open_aligned _))

/-- What is stored when the files are opened: the messages of the fork. -/
@[simp] theorem stores_opening : (opening forkInfo s x.now).Stores m ↔
    s.Stores m ∧ m.meta.forkVersion = forkInfo.currentVersion :=
  MessageStorage.stores_removeOldForkVersionMessages

/-- A validator is seen when the first stored message with the checksum of a file is its own. -/
theorem mem_seen : i ∈ p.seen forkInfo s x ↔ ∃ file ∈ x.folder, file.content ≠ "" ∧
    ∃ m, (opening forkInfo s x.now).findByChecksum (p.crypto.sha256 file.content) = some m ∧ m.index = i := by
  unfold seen
  rw [List.mem_filterMap]
  refine exists_congr fun file => and_congr_right fun _ => ?_
  unfold seenIndex
  by_cases empty : file.content = ""
  · simp [empty]
  · simp [empty]

/-- A message with a key is one of the messages. -/
theorem mem_of_keyed {messages : List ExitMessageWithMetadata}
    (last : lastValue? (keyed messages) i = some m) : m ∈ messages ∧ m.index = i := by
  obtain ⟨u, member, pair⟩ := List.mem_map.mp (mem_of_lastValue? last)
  cases pair
  exact ⟨member, rfl⟩

theorem mem_keyed {messages : List ExitMessageWithMetadata} (member : m ∈ messages) :
    (m.index, m) ∈ keyed messages := List.mem_map.mpr ⟨m, member, rfl⟩

/-- A new message comes from a file of the folder. -/
theorem mem_newMessages : m ∈ p.newMessages forkInfo s x ↔ ∃ file ∈ x.folder,
    p.opened (opening forkInfo s x.now).messagesMetadata file = .message m.data ∧
      m.meta = ⟨p.crypto.sha256 file.content, file.filename, forkInfo.currentVersion⟩ := by
  unfold newMessages
  rw [List.mem_flatMap]
  refine exists_congr fun file => and_congr_right fun _ => ?_
  unfold newMessage
  cases p.opened (opening forkInfo s x.now).messagesMetadata file with
  | message message =>
    rw [List.mem_singleton, Opened.message.injEq]
    constructor
    · rintro rfl
      exact ⟨rfl, rfl⟩
    · rintro ⟨rfl, same⟩
      rw [← same]
  | bad => simp
  | seen => simp
  | thrown failure => simp

theorem mem_verifiedMessages : m ∈ p.verifiedMessages forkInfo s x ↔
    m ∈ p.newMessages forkInfo s x ∧ p.checked (x.context forkInfo) x.infos.get? m.data = .accepted := by
  unfold verifiedMessages
  rw [List.mem_flatMap]
  constructor
  · rintro ⟨u, member, pushed⟩
    unfold verifiedMessage at pushed
    cases fate : p.checked (x.context forkInfo) x.infos.get? u.data with
    | accepted =>
      rw [fate, List.mem_singleton] at pushed
      rw [pushed]
      exact ⟨member, fate⟩
    | bad => rw [fate] at pushed; cases pushed
    | exiting => rw [fate] at pushed; cases pushed
    | thrown failure => rw [fate] at pushed; cases pushed
  · rintro ⟨member, fate⟩
    refine ⟨m, member, ?_⟩
    unfold verifiedMessage
    rw [fate]
    exact List.mem_cons_self

/-- **What is stored after a load**: the last verified message of a validator, or else the message it had,
if that is of the fork and was seen or has no older stamp. -/
theorem stores_storageAfter (aligned : s.Aligned) : (p.storageAfter forkInfo s x).Stores m ↔
    lastValue? (keyed (p.verifiedMessages forkInfo s x)) m.index = some m ∨
    lastValue? (keyed (p.verifiedMessages forkInfo s x)) m.index = none ∧
      ∃ stamp, s.table.cell m.index = some (m, stamp) ∧
        m.meta.forkVersion = forkInfo.currentVersion ∧
        (m.index ∈ p.seen forkInfo s x ∨ x.now ≤ stamp) := by
  rw [MessageStorage.stores_iff_value?, table_storageAfter aligned, Stamped.value_cycle]
  refine or_congr_right (and_congr_right fun _ => exists_congr fun stamp => ?_)
  show (s.table.cell m.index).filter _ = _ ∧ _ ↔ _
  rw [Option.filter_eq_some_iff, and_assoc, decide_eq_true_eq]

/-- In an empty storage no file is seen. -/
theorem touchFile_nothing (nothing : s.messagesMetadata = .empty) (file : MessageFile) :
    p.touchFile s file = s := by
  unfold touchFile
  by_cases empty : file.content = ""
  · rw [if_pos empty]
  · rw [if_neg empty]
    unfold MessageStorage.touchMessageWithChecksum
    rw [nothing]
    rfl

/-- What a load of a new storage stores. -/
theorem storageAfter_fresh {ms : List ExitMessageWithMetadata}
    (verified : p.verifiedMessages forkInfo .fresh x = ms) :
    p.storageAfter forkInfo .fresh x = ((opening forkInfo .fresh x.now).updateMessages ms).2 := by
  have touched (files : List MessageFile) :
      files.foldl p.touchFile (opening forkInfo .fresh x.now) = opening forkInfo .fresh x.now := by
    induction files with
    | nil => rfl
    | cons file files ih => rw [List.foldl_cons, touchFile_nothing rfl, ih]
  unfold storageAfter pruned
  rw [verified, touched]
  rfl

end Cycle

end MessagesProcessor

end ValidatorEjector
