/-
**What a load makes of the files, but for their checksums.**

* `ExitMessageWithMetadata.erased`, `MessageStorage.erased`, `MessagesState.erased` — the messages without the
  checksums of their files.
* `erased_updateMessages`, `erased_findByValidatorIndex` — the storage updates and finds what it would without.
* `Opens` — two files of one name that are opened for the same, while none of them is stored.
* `serving` — the processor over a folder; `Alike` — two loads that end alike.
* `load_congr`, `load_alike` — into a new storage, folders of such files are loaded alike.
-/

import ValidatorEjector.Library.Pool
import ValidatorEjector.Messages.Load

namespace ValidatorEjector

open Js Library Library.Program

/-! ### Erasure -/

/-- The message without the checksum of its file. -/
def ExitMessageWithMetadata.erased (m : ExitMessageWithMetadata) : ExitMessageWithMetadata :=
  { m with «meta» := { m.meta with fileChecksum := "" } }

@[simp] theorem ExitMessageWithMetadata.erased_data (m : ExitMessageWithMetadata) : m.erased.data = m.data := rfl

namespace MessageStorage

def erased (s : MessageStorage) : MessageStorage where
  LAST_UPDATE := s.LAST_UPDATE
  messagesLastUpdate := s.messagesLastUpdate
  messagesMetadata := s.messagesMetadata.mapValues ExitMessageWithMetadata.erased
  indexed := by
    intro i m inside
    obtain ⟨⟨j, u⟩, member, same⟩ := List.mem_map.mp inside
    cases same
    exact s.indexed j u member

variable {s : MessageStorage} {m : ExitMessageWithMetadata}

/-- **An update does not read the checksums.** -/
theorem erased_addOrUpdateMessage : s.erased.addOrUpdateMessage m.erased =
    ((s.addOrUpdateMessage m).1, (s.addOrUpdateMessage m).2.erased) := by
  have found : (s.erased.messagesMetadata.get? m.erased.index).isSome =
      (s.messagesMetadata.get? m.index).isSome := by
    rw [show s.erased.messagesMetadata = s.messagesMetadata.mapValues _ from rfl, OrderedMap.get?_mapValues,
      Option.isSome_map]
    rfl
  have stored : (s.addOrUpdateMessage m).2.erased = (s.erased.addOrUpdateMessage m.erased).2 := by
    unfold addOrUpdateMessage setLastUpdate setMessage erased
    simp only [OrderedMap.mapValues_set]
    rfl
  refine Prod.ext ?_ stored.symm
  unfold addOrUpdateMessage
  dsimp only
  rw [found]

theorem erased_addAll : ∀ (ms : List ExitMessageWithMetadata) (s : MessageStorage),
    addAll (ms.map .erased) s.erased = ((addAll ms s).1, (addAll ms s).2.erased)
  | [], _ => rfl
  | m :: ms, s => by
    have rest := erased_addAll ms (s.addOrUpdateMessage m).2
    rw [List.map_cons, addAll, erased_addOrUpdateMessage]
    dsimp only
    rw [rest]
    rfl

theorem erased_updateMessages (ms : List ExitMessageWithMetadata) (s : MessageStorage) :
    s.erased.updateMessages (ms.map .erased) = ((s.updateMessages ms).1, (s.updateMessages ms).2.erased) := by
  unfold updateMessages
  rw [erased_addAll]

/-- Messages that are alike but for their checksums are stored alike. -/
theorem updateMessages_congr {ms ms' : List ExitMessageWithMetadata}
    (alike : ms.map ExitMessageWithMetadata.erased = ms'.map ExitMessageWithMetadata.erased) :
    (s.updateMessages ms).1 = (s.updateMessages ms').1 ∧
      (s.updateMessages ms).2.erased = (s.updateMessages ms').2.erased := by
  have same := erased_updateMessages ms s
  rw [alike, erased_updateMessages ms' s, Prod.mk.injEq] at same
  exact ⟨same.1.symm, same.2.symm⟩

theorem erased_size : s.erased.size = s.size := OrderedMap.size_mapValues

theorem erased_findByValidatorIndex (i : String) :
    s.erased.findByValidatorIndex i = s.findByValidatorIndex i := by
  unfold findByValidatorIndex
  rw [show s.erased.messagesMetadata = s.messagesMetadata.mapValues _ from rfl, OrderedMap.get?_mapValues,
    Option.map_map]
  rfl

end MessageStorage

/-- The state without the checksums. -/
def MessagesState.erased {σ : Type} (s : MessagesState σ) : MessagesState σ :=
  { s with messageStorage := s.messageStorage.erased }

namespace MessagesProcessor

variable {σ : Type}

/-! ### Files that are opened for the same -/

/-- The files have one name, and are opened for the same while none of them is stored. -/
structure Opens (p : MessagesProcessor σ) (file file' : MessageFile) : Prop where
  named : file.filename = file'.filename
  opened : p.opened .empty file = p.opened .empty file'

theorem Opens.symm {p : MessagesProcessor σ} {file file' : MessageFile} (opens : p.Opens file file') :
    p.Opens file' file := ⟨opens.named.symm, opens.opened.symm⟩

section Files

variable {p : MessagesProcessor σ} {forkVersion : String} {files files' : List MessageFile}

theorem erased_newMessage {file file' : MessageFile} (opens : p.Opens file file') :
    (p.newMessage .empty forkVersion file).map ExitMessageWithMetadata.erased =
      (p.newMessage .empty forkVersion file').map ExitMessageWithMetadata.erased := by
  unfold newMessage
  rw [opens.opened, opens.named]
  cases p.opened .empty file' <;> rfl

theorem erased_newMessages (opens : List.Forall₂ p.Opens files files') :
    (files.flatMap (p.newMessage .empty forkVersion)).map ExitMessageWithMetadata.erased =
      (files'.flatMap (p.newMessage .empty forkVersion)).map ExitMessageWithMetadata.erased := by
  induction opens with
  | nil => rfl
  | cons head _ ih =>
    rw [List.flatMap_cons, List.flatMap_cons, List.map_append, List.map_append, ih, erased_newMessage head]

theorem badFiles_opens (opens : List.Forall₂ p.Opens files files') (bad : List String) :
    files.foldl (p.badFile .empty) bad = files'.foldl (p.badFile .empty) bad := by
  induction opens generalizing bad with
  | nil => rfl
  | cons head _ ih =>
    rw [List.foldl_cons, List.foldl_cons, ih]
    congr 1
    unfold badFile
    rw [head.opened, head.named]

/-- Whether a message passes does not depend on its file. -/
theorem erased_verifiedMessages {c : SigningContext} {registry : String → Option ValidatorInfo}
    (ms : List ExitMessageWithMetadata) :
    (ms.flatMap (p.verifiedMessage c registry)).map ExitMessageWithMetadata.erased =
      (ms.map ExitMessageWithMetadata.erased).flatMap (p.verifiedMessage c registry) := by
  have one (m : ExitMessageWithMetadata) : (p.verifiedMessage c registry m).map ExitMessageWithMetadata.erased =
      p.verifiedMessage c registry m.erased := by
    unfold verifiedMessage
    rw [m.erased_data]
    cases p.checked c registry m.data <;> rfl
  rw [List.map_flatMap, List.flatMap_map]
  simp only [one]

theorem badMessages_erased {c : SigningContext} {registry : String → Option ValidatorInfo}
    (ms : List ExitMessageWithMetadata) (bad : List String) :
    (ms.map ExitMessageWithMetadata.erased).foldl (p.badMessage c registry) bad =
      ms.foldl (p.badMessage c registry) bad := by
  rw [List.foldl_map]
  rfl

end Files

/-! ### Loads -/

/-- The processor over a folder, wherever the messages are. -/
def serving (p : MessagesProcessor σ) (folder : List MessageFile) : MessagesProcessor σ :=
  { p with outside := { p.outside with
      s3Read := fun _ world => .ok folder world
      gsRead := fun _ world => .ok folder world
      readFilesFromFolder := fun _ world => .ok folder world } }

/-- Two loads resolve with the same counts and leave the same, but for checksums, or both fail. -/
inductive Alike : EStateM.Result Failure (MessagesState σ) LoadStats →
    EStateM.Result Failure (MessagesState σ) LoadStats → Prop
  | resolved {stats : LoadStats} {s s' : MessagesState σ} (same : s.erased = s'.erased) :
    Alike (.ok stats s) (.ok stats s')
  | failed {e e' : Failure} {s s' : MessagesState σ} : Alike (.error e s) (.error e' s')

/-- After loads that are alike, the same message is found for every validator. -/
theorem Alike.find {stats stats' : LoadStats} {s s' : MessagesState σ}
    (alike : Alike (.ok stats s) (.ok stats' s'))
    (i : String) : s.messageStorage.findByValidatorIndex i = s'.messageStorage.findByValidatorIndex i := by
  cases alike with
  | resolved same =>
    rw [← MessageStorage.erased_findByValidatorIndex, ← s'.messageStorage.erased_findByValidatorIndex]
    exact congrArg (fun s => s.messageStorage.findByValidatorIndex i) same

/-- A load that is alike one that resolves does, too. -/
theorem Alike.resolves {first : EStateM.Result Failure (MessagesState σ) LoadStats} {stats : LoadStats}
    {s' : MessagesState σ} (alike : Alike first (.ok stats s')) : ∃ s, first = .ok stats s := by
  cases alike with
  | resolved same => exact ⟨_, rfl⟩

section Loads

variable {p : MessagesProcessor σ} {forkInfo : ForkVersionInfo} {files files' : List MessageFile}

theorem readFolder_serving (uri : String) (world : σ) :
    (p.serving files).outside.readFolder uri world = .ok files world := by
  unfold Outside.readFolder
  split_ifs <;> rfl

/-- What a load tells of the world, but for the folder. -/
theorem told_serving {x : Answers} {w w' : σ} (present : missing p.MESSAGES_LOCATION = false)
    (told : (p.serving files).Told forkInfo .fresh x w w') (opens : List.Forall₂ p.Opens files files') :
    x.folder = files ∧ (p.serving files').Told forkInfo .fresh { x with folder := files' } w w' := by
  cases told with
  | webhook absent => exact absurd (present.symm.trans absent).symm (by decide)
  | messages _ now folder genesis state infos =>
    rw [readFolder_serving] at folder
    cases folder
    refine ⟨rfl, .messages present now (readFolder_serving _ _) genesis state ?_⟩
    have indices : ((p.serving files').newMessages forkInfo .fresh { x with folder := files' }).map
        ExitMessageWithMetadata.index =
        ((p.serving x.folder).newMessages forkInfo .fresh x).map ExitMessageWithMetadata.index := by
      have same := congrArg (List.map ExitMessageWithMetadata.index)
        (@erased_newMessages σ p forkInfo.currentVersion _ _ opens)
      rw [List.map_map, List.map_map] at same
      exact same.symm
    rw [indices]
    exact infos

/-- A new storage has nothing to prune. -/
theorem pruned_fresh (x : Answers) : p.pruned forkInfo .fresh x = (0, opening forkInfo .fresh x.now) := by
  have touched (files : List MessageFile) :
      files.foldl p.touchFile (opening forkInfo .fresh x.now) = opening forkInfo .fresh x.now := by
    induction files with
    | nil => rfl
    | cons file files ih => rw [List.foldl_cons, touchFile_nothing rfl, ih]
  unfold pruned
  rw [touched]
  rfl

/-- No file throws in one folder if none does in the other. -/
theorem orderly_serving {x : Answers} (here : x.folder = files) (opens : List.Forall₂ p.Opens files files')
    (orderly : (p.serving files).Orderly forkInfo .fresh x) :
    (p.serving files').Orderly forkInfo .fresh { x with folder := files' } := by
  subst here
  constructor
  · intro file' inside failure thrown
    obtain ⟨file, member, one⟩ := forall₂_mem opens inside
    exact orderly.opened file member failure (one.opened.trans thrown)
  · intro m' inside failure thrown
    have same := @erased_newMessages σ p forkInfo.currentVersion _ _ opens
    have erased : m'.erased ∈ (files'.flatMap (p.newMessage .empty forkInfo.currentVersion)).map
      ExitMessageWithMetadata.erased := List.mem_map_of_mem inside
    rw [← same] at erased
    obtain ⟨m, member, alike⟩ := List.mem_map.mp erased
    have data : m.data = m'.data := by rw [← m.erased_data, alike, m'.erased_data]
    refine orderly.checked m member failure ?_
    rw [data]
    exact thrown

theorem verifiedMessages_serving {x : Answers} (here : x.folder = files)
    (opens : List.Forall₂ p.Opens files files') :
    ((p.serving files).verifiedMessages forkInfo .fresh x).map ExitMessageWithMetadata.erased =
      ((p.serving files').verifiedMessages forkInfo .fresh { x with folder := files' }).map
        ExitMessageWithMetadata.erased := by
  subst here
  have same := @erased_newMessages σ p forkInfo.currentVersion _ _ opens
  unfold verifiedMessages
  rw [erased_verifiedMessages, erased_verifiedMessages]
  exact congrArg (List.flatMap (p.verifiedMessage (x.context forkInfo) x.infos.get?)) same

theorem badFiles_serving {x : Answers} (here : x.folder = files) (opens : List.Forall₂ p.Opens files files') :
    (p.serving files).badFiles forkInfo .fresh x =
      (p.serving files').badFiles forkInfo .fresh { x with folder := files' } := by
  subst here
  have same := @erased_newMessages σ p forkInfo.currentVersion _ _ opens
  show (x.folder.flatMap (p.newMessage .empty forkInfo.currentVersion)).foldl
      (p.badMessage (x.context forkInfo) x.infos.get?) (x.folder.foldl (p.badFile .empty) []) =
    (files'.flatMap (p.newMessage .empty forkInfo.currentVersion)).foldl
      (p.badMessage (x.context forkInfo) x.infos.get?) (files'.foldl (p.badFile .empty) [])
  rw [badFiles_opens opens, ← badMessages_erased, same, badMessages_erased]

theorem statsAfter_fresh (x : Answers) : p.statsAfter forkInfo .fresh x =
    let stats := ((opening forkInfo .fresh x.now).updateMessages (p.verifiedMessages forkInfo .fresh x)).1
    ⟨stats.updated, stats.added, 0⟩ := by
  unfold statsAfter
  rw [pruned_fresh]

/-- What a load into a new storage leaves behind. -/
theorem afterLoad_fresh (x : Answers) (world world' : σ) : p.afterLoad forkInfo x world' (.fresh world) =
    let bad := p.badFiles forkInfo .fresh x
    let storage := ((opening forkInfo .fresh x.now).updateMessages (p.verifiedMessages forkInfo .fresh x)).2
    ⟨world', false, storage, bad, ⟨storage.size, bad.length⟩, ⟨0, 0⟩,
      if missing p.MESSAGES_LOCATION then [] else [.verified ⟨x.context forkInfo, x.infos⟩]⟩ := by
  unfold afterLoad
  rw [MessagesState.fresh_messageStorage, storageAfter_fresh rfl]
  rfl

/-- **Folders of files that are opened for the same are loaded alike**: into a new storage, with the same
counts, the same bad files and, but for their checksums, the same messages. -/
theorem load_congr (opens : List.Forall₂ p.Opens files files') {world : σ} {stats : LoadStats}
    {s : MessagesState σ} (ran : (p.serving files).loadToMemoryStorage forkInfo (.fresh world) = .ok stats s) :
    ∃ s', (p.serving files').loadToMemoryStorage forkInfo (.fresh world) = .ok stats s' ∧
      s.erased = s'.erased := by
  obtain ⟨x, w, told, orderly, rfl, rfl⟩ := load_ok_iff.mp ran
  cases mode : missing p.MESSAGES_LOCATION with
  | true =>
    cases told with
    | messages present => exact absurd (present.symm.trans mode) (by decide)
    | webhook _ now unasked =>
      have orderly' : (p.serving files').Orderly forkInfo .fresh x := ⟨orderly.opened, orderly.checked⟩
      exact ⟨_, load_ok_iff.mpr ⟨x, w, .webhook mode now unasked, orderly', rfl, rfl⟩, rfl⟩
  | false =>
    obtain ⟨here, told'⟩ := told_serving mode told opens
    have bad := @badFiles_serving σ p forkInfo _ _ x here opens
    have verified := @verifiedMessages_serving σ p forkInfo _ _ x here opens
    obtain ⟨counts, stored⟩ := @MessageStorage.updateMessages_congr (opening forkInfo .fresh x.now) _ _ verified
    refine ⟨_, load_ok_iff.mpr ⟨_, w, told', orderly_serving here opens orderly, ?_, rfl⟩, ?_⟩
    · rw [MessagesState.fresh_messageStorage, statsAfter_fresh, statsAfter_fresh]
      dsimp only
      rw [counts]
    · have size := congrArg MessageStorage.size stored
      rw [MessageStorage.erased_size, MessageStorage.erased_size] at size
      rw [afterLoad_fresh, afterLoad_fresh]
      unfold MessagesState.erased
      dsimp only
      rw [bad, stored, size]
      rfl

theorem load_alike (opens : List.Forall₂ p.Opens files files') (world : σ) :
    Alike ((p.serving files).loadToMemoryStorage forkInfo (.fresh world))
      ((p.serving files').loadToMemoryStorage forkInfo (.fresh world)) := by
  have back : List.Forall₂ p.Opens files' files := opens.flip.imp fun _ _ one => one.symm
  cases first : (p.serving files).loadToMemoryStorage forkInfo (.fresh world) with
  | ok stats s =>
    obtain ⟨s', second, same⟩ := load_congr opens first
    rw [second]
    exact .resolved same
  | error e s =>
    cases second : (p.serving files').loadToMemoryStorage forkInfo (.fresh world) with
    | error e' s' => exact .failed
    | ok stats s' =>
      obtain ⟨t, other, _⟩ := load_congr back second
      exact absurd (first.symm.trans other) (by simp)

end Loads

end MessagesProcessor

end ValidatorEjector
