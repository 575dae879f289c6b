/-
**What a load prunes, and when the next one changes nothing.**

A stale message is told from a live one by its stamp. With stamps of their own loads prune exactly; a
reading of the clock that is not new leaves stale messages behind.

* `Lingers` — a stale message that a load leaves; `exact_iff`, `run_prunes_iff` — a load is exact when it
  leaves none.
* `exact_of_fresh` — with a new stamp it never does.
* `Compete` — two files of one folder for one validator; `reload_idempotent_iff` — a second load over the
  same folder changes nothing when no files compete.
-/

import ValidatorEjector.Messages.Accounting
import ValidatorEjector.Messages.History

namespace ValidatorEjector

open Js Library Library.Program

namespace MessagesProcessor

variable {σ : Type}

/-! ### Stale messages -/

section Stale

variable (p : MessagesProcessor σ) (forkInfo : ForkVersionInfo) (s : MessageStorage) (x : Answers)

/-- A file of the folder that is not stored holds a message for the validator, and the message passes its
check. -/
def Replaced (validatorIndex : String) : Prop :=
  ∃ file ∈ x.folder, ∃ message, file.content ≠ "" ∧
    p.isSeen (opening forkInfo s x.now).messagesMetadata file.content = false ∧
    p.fileMessage file.content = .ok (some message) ∧
    p.checked (x.context forkInfo) x.infos.get? message = .accepted ∧
    message.message.validator_index = validatorIndex

/-- **A stale message stays**: its file is gone, its stamp is not older than the clock, and nothing takes
its place. -/
structure Lingers (m : ExitMessageWithMetadata) : Prop where
  stored : s.Stores m
  forked : m.meta.forkVersion = forkInfo.currentVersion
  gone : ∀ file ∈ x.folder, p.crypto.sha256 file.content ≠ m.meta.fileChecksum
  recent : ∃ stamp, s.messagesLastUpdate.get? m.index = some stamp ∧ x.now ≤ stamp
  unreplaced : ¬ p.Replaced forkInfo s x m.index

/-- Every stored message is from a file of the folder. -/
def Exact (after : MessageStorage) : Prop :=
  ∀ m, after.Stores m → ∃ file ∈ x.folder, p.crypto.sha256 file.content = m.meta.fileChecksum

variable {p forkInfo s x} {m : ExitMessageWithMetadata} {i : String}

/-- A validator is replaced when a message of its is verified. -/
theorem lastValue?_verified : lastValue? (keyed (p.verifiedMessages forkInfo s x)) i = none ↔
    ¬ p.Replaced forkInfo s x i := by
  rw [lastValue?_eq_none]
  constructor
  · rintro none ⟨file, member, message, text, unseen, read, fate, rfl⟩
    have opened : p.opened (opening forkInfo s x.now).messagesMetadata file = .message message := by
      rw [opened_of_text text unseen, read]
    have new : (⟨message, ⟨p.crypto.sha256 file.content, file.filename, forkInfo.currentVersion⟩⟩ :
        ExitMessageWithMetadata) ∈ p.newMessages forkInfo s x :=
      mem_newMessages.mpr ⟨file, member, opened, rfl⟩
    exact none _ (mem_keyed (mem_verifiedMessages.mpr ⟨new, fate⟩))
  · intro unreplaced u inside
    obtain ⟨v, member, pair⟩ := List.mem_map.mp inside
    obtain ⟨new, fate⟩ := mem_verifiedMessages.mp member
    obtain ⟨file, present, opened, -⟩ := mem_newMessages.mp new
    obtain ⟨text, unseen, read⟩ := opened_message opened
    exact unreplaced ⟨file, present, v.data, text, unseen, read, fate, (Prod.mk.inj pair).1⟩

/-- The file of a verified message is in the folder. -/
theorem verified_file (last : lastValue? (keyed (p.verifiedMessages forkInfo s x)) i = some m) :
    ∃ file ∈ x.folder, p.crypto.sha256 file.content = m.meta.fileChecksum := by
  obtain ⟨new, -⟩ := mem_verifiedMessages.mp (mem_of_keyed last).1
  obtain ⟨file, present, -, made⟩ := mem_newMessages.mp new
  exact ⟨file, present, by rw [made]⟩

/-- The file of a message that is seen is in the folder. -/
theorem seen_file (stored : s.Stores m) (inside : m.index ∈ p.seen forkInfo s x) :
    ∃ file ∈ x.folder, p.crypto.sha256 file.content = m.meta.fileChecksum := by
  obtain ⟨file, present, -, u, found, index⟩ := mem_seen.mp inside
  obtain ⟨opened, checksum⟩ := MessageStorage.findByChecksum_some found
  have first : s.messagesMetadata.get? u.index = some u := (stores_opening.mp opened).1
  rw [index, stored] at first
  rw [Option.some.inj first]
  exact ⟨file, present, checksum.symm⟩

theorem cell_of_stores (aligned : s.Aligned) (stored : s.Stores m) : ∃ stamp,
    s.messagesLastUpdate.get? m.index = some stamp ∧ s.table.cell m.index = some (m, stamp) := by
  have both := aligned.stamp (j := m.index)
  rw [stored, Option.isSome_some] at both
  obtain ⟨stamp, found⟩ := Option.isSome_iff_exists.mp both
  refine ⟨stamp, found, ?_⟩
  show (s.messagesMetadata.get? m.index).map _ = _
  rw [stored, found]
  rfl

/-- **One load** is exact when it leaves no stale message. -/
theorem exact_iff (aligned : s.Aligned) : p.Exact x (p.storageAfter forkInfo s x) ↔
    ∀ m, ¬ p.Lingers forkInfo s x m := by
  constructor
  · rintro «exact» m ⟨stored, forked, gone, ⟨stamp, found, recent⟩, unreplaced⟩
    obtain ⟨stamp', found', held⟩ := cell_of_stores aligned stored
    rw [found] at found'
    cases found'
    obtain ⟨file, present, same⟩ := «exact» m ((stores_storageAfter aligned).mpr
      (.inr ⟨lastValue?_verified.mpr unreplaced, stamp, held, forked, .inr recent⟩))
    exact gone file present same
  · intro none m stored
    rcases (stores_storageAfter aligned).mp stored with last | ⟨last, stamp, held, forked, kept⟩
    · exact verified_file last
    have before : s.Stores m := by
      rw [MessageStorage.stores_iff_value?]
      unfold Stamped.value?
      rw [held]
      rfl
    rcases kept with inside | recent
    · exact seen_file before inside
    by_contra gone
    push Not at gone
    obtain ⟨stamp', found, held'⟩ := cell_of_stores aligned before
    rw [held] at held'
    cases held'
    exact none m ⟨before, forked, gone, ⟨stamp, found, recent⟩, lastValue?_verified.mp last⟩

/-- **A load with a stamp of its own** leaves no stale message. -/
theorem not_lingers_of_fresh {stamps : List Int} (kept : p.Kept stamps s)
    (fresh : ∀ stamp ∈ stamps, stamp < x.now) : ¬ p.Lingers forkInfo s x m := by
  rintro ⟨stored, -, -, ⟨stamp, found, recent⟩, -⟩
  obtain ⟨stamp', found', held⟩ := cell_of_stores kept.aligned stored
  rw [found] at found'
  cases found'
  exact absurd (fresh stamp (kept.stamped _ m stamp held)) (Int.not_lt.mpr recent)

/-- So it is exact. -/
theorem exact_of_fresh {stamps : List Int} (kept : p.Kept stamps s)
    (fresh : ∀ stamp ∈ stamps, stamp < x.now) : p.Exact x (p.storageAfter forkInfo s x) :=
  (exact_iff kept.aligned).mpr fun _ => not_lingers_of_fresh kept fresh

end Stale

/-! ### Pruning over a history -/

section Run

variable {p : MessagesProcessor σ}

/-- A call that resolved has left the storage of a load. -/
theorem history_calls {calls : List Call} {s : MessagesState σ} (history : p.History calls s) :
    ∀ call ∈ calls, ∀ x, call.told = some x → call.before.Aligned ∧
      call.after = p.storageAfter call.forkInfo call.before x := by
  induction history with
  | fresh world => exact List.forall_mem_nil _
  | elapsed world before ih => exact ih
  | loaded before told run ih =>
    intro call member x answered
    rcases List.mem_append.mp member with earlier | last
    · exact ih call earlier x answered
    · rw [List.mem_singleton.mp last] at answered ⊢
      cases answered
      obtain ⟨-, -, rfl⟩ := loaded_eq told run
      exact ⟨(history_kept before).aligned, rfl⟩
  | failed before run ih =>
    intro call member x answered
    rcases List.mem_append.mp member with earlier | last
    · exact ih call earlier x answered
    · rw [List.mem_singleton.mp last] at answered
      cases answered

/-- **Pruning.** In a history of loads, at any clock, every call that resolves leaves messages of files of
the folder it has read only, exactly when no such call leaves a stale message. -/
theorem run_prunes_iff {calls : List Call} {s : MessagesState σ} (history : p.History calls s) :
    (∀ call ∈ calls, ∀ x, call.told = some x → p.Exact x call.after) ↔
      ∀ call ∈ calls, ∀ x, call.told = some x → ∀ m, ¬ p.Lingers call.forkInfo call.before x m := by
  refine forall_congr' fun call => forall_congr' fun member => forall_congr' fun x =>
    forall_congr' fun answered => ?_
  obtain ⟨aligned, after⟩ := history_calls history call member x answered
  rw [after]
  exact exact_iff aligned

end Run

end MessagesProcessor

namespace HoleskyFixture

open MessagesProcessor

/-- A later load, of an empty folder. -/
theorem history_emptied {calls : List Call} {s : MessagesState Moment}
    (history : (processor FAR_FUTURE_EPOCH).History calls s) (now : Int) : ∃ x stats s',
      x.now = now ∧ x.folder = [] ∧ (processor FAR_FUTURE_EPOCH).History (calls ++
        [⟨forkInfo, x.now, some x, some stats, s.messageStorage, s'.messageStorage⟩]) s' := by
  have loaded := load_signed (s := later now [] s) fun _ member => by cases member
  have moved : (processor FAR_FUTURE_EPOCH).History calls (later now [] s) := history.elapsed ⟨now, []⟩
  exact ⟨_, _, _, rfl, rfl, moved.loaded (told _ ⟨now, []⟩) loaded⟩

/-- **A message whose file is gone is pruned**: the first load stores it, and the second leaves nothing. -/
theorem run_prunes_gone : ∃ calls s', (processor FAR_FUTURE_EPOCH).History calls s' ∧
    (∀ call ∈ calls, ∀ x, call.told = some x → (processor FAR_FUTURE_EPOCH).Exact x call.after) ∧
    (∃ call ∈ calls, call.after.findByValidatorIndex "828943" = some message) ∧
    ∀ i, s'.messageStorage.findByValidatorIndex i = none := by
  obtain ⟨stats, history⟩ := history_first 1
  obtain ⟨x, _, s', reading, folder, both⟩ := history_emptied history 2
  have kept : (processor FAR_FUTURE_EPOCH).Kept [1] (afterFirst 1).messageStorage := history_kept history
  have «exact» := (run_prunes_iff both).mpr fun call member y told m lingers => by
    rcases List.mem_append.mp member with first | second
    · rw [List.mem_singleton.mp first] at lingers
      exact MessageStorage.not_stores_fresh lingers.stored
    · rw [List.mem_singleton.mp second] at lingers told
      dsimp only at lingers told
      have now : y.now = 2 := (congrArg Answers.now (Option.some.inj told)).symm.trans reading
      refine not_lingers_of_fresh kept (fun stamp first => ?_) lingers
      rw [List.mem_singleton.mp first, now]
      decide
  refine ⟨_, s', both, «exact», ⟨_, List.mem_cons_self, ?_⟩, fun i => ?_⟩
  · dsimp only
    exact find_stored get?_afterFirst
  · refine Option.map_eq_none_iff.mpr (Option.eq_none_iff_forall_ne_some.mpr fun m found => ?_)
    obtain ⟨file, present, -⟩ := «exact» _ List.mem_concat_self _ rfl m
      (MessageStorage.stores_of_get? found).1
    rw [folder] at present
    cases present

/-- **At a clock that repeats a reading, a message stays without its file.** -/
theorem load_lingers : ∃ stats s', (processor FAR_FUTURE_EPOCH).loadToMemoryStorage forkInfo
    (later 5 [] (afterFirst 5)) = .ok stats s' ∧
      s'.messageStorage.findByValidatorIndex "828943" = some message := by
  have second := load_signed (s := later 5 [] (afterFirst 5)) fun _ member => by cases member
  refine ⟨_, _, second, ?_⟩
  obtain ⟨stats, history⟩ := history_first 5
  have kept : (processor FAR_FUTURE_EPOCH).Kept [5] (afterFirst 5).messageStorage := history_kept history
  obtain ⟨stamp, -, held⟩ := cell_of_stores kept.aligned stores_afterFirst
  have stamped := kept.stamped _ _ _ held
  rw [List.mem_singleton.mp stamped] at held
  have left : ((processor FAR_FUTURE_EPOCH).storageAfter forkInfo (afterFirst 5).messageStorage
      (answers FAR_FUTURE_EPOCH (afterFirst 5).messageStorage ⟨5, []⟩)).Stores stored := by
    refine (stores_storageAfter kept.aligned).mpr (.inr ⟨?_, 5, held, rfl, .inr (Int.le_refl 5)⟩)
    rw [verifiedMessages_signed fun _ member => by cases member]
    rfl
  rw [afterLoad_messageStorage, later_messageStorage, later_world]
  exact find_stored left

end HoleskyFixture

namespace MessagesProcessor

variable {σ : Type}

/-! ### A second load -/

section Again

variable (p : MessagesProcessor σ) (forkInfo : ForkVersionInfo) (x : Answers)
  (registry : String → Option ValidatorInfo)

/-- The file holds a message that passes its check. -/
structure Passes (c : SigningContext) (file : MessageFile) (message : ExitMessage) : Prop where
  text : file.content ≠ ""
  read : p.fileMessage file.content = .ok (some message)
  checked : p.checked c registry message = .accepted

/-- **Two files compete** for one validator, with different contents. -/
def Compete : Prop := ∃ file ∈ x.folder, ∃ other ∈ x.folder, ∃ message message',
  file.content ≠ other.content ∧ p.Passes registry (x.context forkInfo) file message ∧
    p.Passes registry (x.context forkInfo) other message' ∧
    message.message.validator_index = message'.message.validator_index

/-- Two loads read the same folder, and the node tells both the same, from one registry. -/
structure Fixed (s s' : MessageStorage) (y : Answers) : Prop where
  folder : y.folder = x.folder
  genesis : y.genesis = x.genesis
  state : y.state = x.state
  infos : ∀ m ∈ p.newMessages forkInfo s x, x.infos.get? m.index = registry m.index
  infos' : ∀ m ∈ p.newMessages forkInfo s' y, y.infos.get? m.index = registry m.index

variable {p forkInfo x registry} {s : MessageStorage} {y : Answers} {m : ExitMessageWithMetadata}

theorem checked_congr {c : SigningContext} {registry registry' : String → Option ValidatorInfo}
    {message : ExitMessage}
    (same : registry message.message.validator_index = registry' message.message.validator_index) :
    p.checked c registry message = p.checked c registry' message := by
  unfold checked
  rw [same]

theorem isSeen_iff {content : String} : p.isSeen s.messagesMetadata content = true ↔
    ∃ m, s.Stores m ∧ m.meta.fileChecksum = p.crypto.sha256 content := by
  unfold isSeen
  rw [List.any_eq_true]
  simp only [MessageStorage.mem_values, decide_eq_true_eq]

/-- A new message that is checked against the registry is verified. -/
theorem mem_verified_iff
    (infos : ∀ m ∈ p.newMessages forkInfo s x, x.infos.get? m.index = registry m.index) :
    m ∈ p.verifiedMessages forkInfo s x ↔ ∃ file ∈ x.folder,
      p.isSeen (opening forkInfo s x.now).messagesMetadata file.content = false ∧
      p.Passes registry (x.context forkInfo) file m.data ∧
      m.meta = ⟨p.crypto.sha256 file.content, file.filename, forkInfo.currentVersion⟩ := by
  rw [mem_verifiedMessages]
  constructor
  · rintro ⟨new, fate⟩
    have agree := infos m new
    obtain ⟨file, present, opened, made⟩ := mem_newMessages.mp new
    obtain ⟨text, unseen, read⟩ := opened_message opened
    rw [checked_congr agree] at fate
    exact ⟨file, present, unseen, ⟨text, read, fate⟩, made⟩
  · rintro ⟨file, present, unseen, ⟨text, read, fate⟩, made⟩
    have opened : p.opened (opening forkInfo s x.now).messagesMetadata file = .message m.data := by
      rw [opened_of_text text unseen, read]
    have new := mem_newMessages.mpr ⟨file, present, opened, made⟩
    rw [← checked_congr (infos m new)] at fate
    exact ⟨new, fate⟩

/-- Maps with the same values have the same size. -/
theorem size_congr {s u : MessageStorage} (same : s.messagesMetadata.get? = u.messagesMetadata.get?) :
    s.size = u.size := by
  have perm : s.messagesMetadata.entries.Perm u.messagesMetadata.entries := by
    refine (List.perm_ext_iff_of_nodup s.messagesMetadata.nodup.of_map
      u.messagesMetadata.nodup.of_map).mpr fun e => ?_
    rw [← OrderedMap.get?_eq_some, ← OrderedMap.get?_eq_some, same]
  exact perm.length_eq

/-- A stored message is found under its index, and nothing else is. -/
theorem get?_eq_some_iff {i : String} : s.messagesMetadata.get? i = some m ↔ s.Stores m ∧ m.index = i := by
  constructor
  · exact MessageStorage.stores_of_get?
  · rintro ⟨stored, rfl⟩
    exact stored

/-- What a load writes is updated or added. -/
theorem statsAfter_written (forkInfo : ForkVersionInfo) :
    (p.statsAfter forkInfo s x).updated + (p.statsAfter forkInfo s x).added =
      (p.verifiedMessages forkInfo s x).length :=
  (MessageStorage.updateMessages_counts (p.verifiedMessages forkInfo s x) (p.pruned forkInfo s x).2).2.1

/-- **A load with nothing to write**, over files that are all stored, changes nothing. -/
theorem load_quiet (aligned : s.Aligned)
    (forked : ∀ m, s.Stores m → m.meta.forkVersion = forkInfo.currentVersion)
    (live : ∀ m, s.Stores m → m.index ∈ p.seen forkInfo s x)
    (quiet : p.verifiedMessages forkInfo s x = []) :
    (p.storageAfter forkInfo s x).messagesMetadata.get? = s.messagesMetadata.get? ∧
      p.statsAfter forkInfo s x = ⟨0, 0, 0⟩ := by
  have values : (p.storageAfter forkInfo s x).messagesMetadata.get? = s.messagesMetadata.get? := by
    funext i
    ext m
    rw [get?_eq_some_iff, get?_eq_some_iff, stores_storageAfter aligned, quiet]
    refine and_congr_left fun _ => ?_
    constructor
    · rintro (last | ⟨_, stamp, held, _, _⟩)
      · cases last
      · rw [MessageStorage.stores_iff_value?]
        unfold Stamped.value?
        rw [held]
        rfl
    · intro stored
      obtain ⟨stamp, _, held⟩ := cell_of_stores aligned stored
      exact .inr ⟨rfl, stamp, held, forked m stored, .inl (live m stored)⟩
  refine ⟨values, ?_⟩
  have written := statsAfter_written (p := p) (s := s) (x := x) forkInfo
  rw [quiet] at written
  have size : (p.storageAfter forkInfo s x).size + (p.statsAfter forkInfo s x).removed = _ :=
    size_storageAfter aligned
  have all : (s.messagesMetadata.values.countP fun m => m.meta.forkVersion = forkInfo.currentVersion) =
      s.size := by
    rw [List.countP_eq_length.mpr fun m member =>
      decide_eq_true (forked m (MessageStorage.mem_values.mp member))]
    exact List.length_map _
  rw [size_congr values, all] at size
  cases stats : p.statsAfter forkInfo s x with
  | mk u a r =>
    rw [stats] at written size
    simp only [List.length_nil] at written size
    obtain ⟨rfl, rfl, rfl⟩ : u = 0 ∧ a = 0 ∧ r = 0 := by omega
    rfl

section Quiet

variable {stamps : List Int}

/-- After a load, an accepted file is stored, or another accepted one of its validator is. -/
theorem stored_content (kept : p.Kept stamps s) (injective : Function.Injective p.crypto.sha256)
    (infos : ∀ m ∈ p.newMessages forkInfo s x, x.infos.get? m.index = registry m.index)
    {file : MessageFile} {message : ExitMessage} (present : file ∈ x.folder)
    (accepts : p.Passes registry (x.context forkInfo) file message) :
    (∃ m, (p.storageAfter forkInfo s x).Stores m ∧ m.meta.fileChecksum = p.crypto.sha256 file.content) ∨
    ∃ other ∈ x.folder, ∃ m, (p.storageAfter forkInfo s x).Stores m ∧
      m.meta.fileChecksum = p.crypto.sha256 other.content ∧
      p.Passes registry (x.context forkInfo) other m.data ∧ m.index = message.message.validator_index := by
  cases last : lastValue? (keyed (p.verifiedMessages forkInfo s x)) message.message.validator_index with
  | some m =>
    obtain ⟨member, index⟩ := mem_of_keyed last
    obtain ⟨other, inside, -, good, made⟩ := (mem_verified_iff infos).mp member
    rw [← index] at last
    exact .inr ⟨other, inside, m, (stores_storageAfter kept.aligned).mpr (.inl last), by rw [made], good,
      index⟩
  | none =>
    refine .inl ?_
    cases unseen : p.isSeen (opening forkInfo s x.now).messagesMetadata file.content with
    | false =>
      have new := (mem_verified_iff (m := ⟨message, ⟨p.crypto.sha256 file.content, file.filename,
        forkInfo.currentVersion⟩⟩) infos).mpr ⟨file, present, unseen, accepts, rfl⟩
      exact absurd (mem_keyed new) (lastValue?_eq_none.mp last _)
    | true =>
      obtain ⟨u, opened, checksum⟩ := isSeen_iff.mp unseen
      obtain ⟨stored, forked⟩ := stores_opening.mp opened
      obtain ⟨content, -, checksum', read⟩ := kept.sourced u stored
      have contents : content = file.content := injective (checksum'.symm.trans checksum)
      rw [contents] at read
      have data : u.data = message := Option.some.inj (Except.ok.inj (read.symm.trans accepts.read))
      obtain ⟨stamp, -, held⟩ := cell_of_stores kept.aligned stored
      rw [← data] at last
      exact ⟨u, (stores_storageAfter kept.aligned).mpr (.inr ⟨last, stamp, held, forked,
        .inl (kept.sourced.mem_seen injective stored forked present checksum.symm)⟩), checksum⟩

/-- **The second load has nothing to write** when no files compete. -/
theorem quiet_iff (kept : p.Kept stamps s) (injective : Function.Injective p.crypto.sha256)
    (fixed : p.Fixed forkInfo x registry s (p.storageAfter forkInfo s x) y) :
    p.verifiedMessages forkInfo (p.storageAfter forkInfo s x) y = [] ↔ ¬ p.Compete forkInfo x registry := by
  have kept' : p.Kept (stamps ++ [x.now]) (p.storageAfter forkInfo s x) := kept_storageAfter kept
  have context : y.context forkInfo = x.context forkInfo := by
    unfold Answers.context
    rw [fixed.genesis, fixed.state]
  have member (m : ExitMessageWithMetadata) :
      m ∈ p.verifiedMessages forkInfo (p.storageAfter forkInfo s x) y ↔ _ := mem_verified_iff fixed.infos'
  rw [context, fixed.folder] at member
  constructor
  · rintro quiet ⟨file, present, other, present', message, message', differ, accepts, accepts', index⟩
    have stored {f : MessageFile} {d : ExitMessage} (here : f ∈ x.folder)
        (good : p.Passes registry (x.context forkInfo) f d) : ∃ u,
        (p.storageAfter forkInfo s x).Stores u ∧ u.data = d ∧
          u.meta.fileChecksum = p.crypto.sha256 f.content := by
      cases unseen : p.isSeen (opening forkInfo (p.storageAfter forkInfo s x) y.now).messagesMetadata
          f.content with
      | false =>
        have new := (member ⟨d, ⟨p.crypto.sha256 f.content, f.filename, forkInfo.currentVersion⟩⟩).mpr
          ⟨f, here, unseen, good, rfl⟩
        rw [quiet] at new
        cases new
      | true =>
        obtain ⟨u, opened, checksum⟩ := isSeen_iff.mp unseen
        have inside := (stores_opening.mp opened).1
        obtain ⟨content, -, checksum', read⟩ := kept'.sourced u inside
        rw [injective (checksum'.symm.trans checksum)] at read
        exact ⟨u, inside, Option.some.inj (Except.ok.inj (read.symm.trans good.read)), checksum⟩
    obtain ⟨u, inside, data, checksum⟩ := stored present accepts
    obtain ⟨u', inside', data', checksum'⟩ := stored present' accepts'
    have indices : u.index = u'.index := by
      unfold ExitMessageWithMetadata.index
      rw [data, data', index]
    have first : (p.storageAfter forkInfo s x).messagesMetadata.get? u.index = some u := inside
    rw [indices, inside'] at first
    rw [← Option.some.inj first] at checksum
    exact differ (injective (checksum.symm.trans checksum'))
  · intro none
    refine List.eq_nil_iff_forall_not_mem.mpr fun m inside => ?_
    obtain ⟨file, present, unseen, accepts, -⟩ := (member m).mp inside
    have contradicts {u : ExitMessageWithMetadata} (stored : (p.storageAfter forkInfo s x).Stores u)
        (checksum : u.meta.fileChecksum = p.crypto.sha256 file.content) : False := by
      have opened : (opening forkInfo (p.storageAfter forkInfo s x) y.now).Stores u :=
        stores_opening.mpr ⟨stored, storageAfter_forked kept.aligned stored⟩
      rw [isSeen_iff.mpr ⟨u, opened, checksum⟩] at unseen
      cases unseen
    rcases stored_content kept injective fixed.infos present accepts with
      ⟨u, stored, checksum⟩ | ⟨other, present', u, stored, checksum, accepts', index⟩
    · exact contradicts stored checksum
    · by_cases same : other.content = file.content
      · rw [same] at checksum
        exact contradicts stored checksum
      · exact none ⟨other, present', file, present, u.data, m.data, same, accepts', accepts, index⟩

end Quiet

/-- **Reload.** After any history, with a clock that only moves on and a node that reports from one
registry, a second load over the same folder changes no message and reports no change exactly when no two
files of the folder compete for a validator. -/
theorem reload_idempotent_iff (injective : Function.Injective p.crypto.sha256) {calls : List Call}
    {s s₁ s₂ : MessagesState σ} {w v v' : σ} {stats stats' : LoadStats} (history : p.History calls s)
    (told : p.Told forkInfo s.messageStorage x s.world v)
    (run : p.loadToMemoryStorage forkInfo s = .ok stats s₁)
    (told' : p.Told forkInfo s₁.messageStorage y w v')
    (again : p.loadToMemoryStorage forkInfo { s₁ with world := w } = .ok stats' s₂)
    (increasing : (readings calls ++ [x.now, y.now]).Pairwise (· < ·))
    (fixed : p.Fixed forkInfo x registry s.messageStorage s₁.messageStorage y) :
    (s₂.messageStorage.messagesMetadata.get? = s₁.messageStorage.messagesMetadata.get? ∧
      stats' = ⟨0, 0, 0⟩) ↔ ¬ p.Compete forkInfo x registry := by
  obtain ⟨-, -, rfl⟩ := loaded_eq told run
  have told'' : p.Told forkInfo ({ p.afterLoad forkInfo x v s with world := w }).messageStorage y w v' :=
    told'
  obtain ⟨-, rfl, rfl⟩ := loaded_eq told'' again
  have kept := history_kept history
  have kept' : p.Kept (readings calls ++ [x.now]) (p.storageAfter forkInfo s.messageStorage x) :=
    kept_storageAfter kept
  have fresh : ∀ stamp ∈ readings calls, stamp < x.now := fun stamp member =>
    (List.pairwise_append.mp increasing).2.2 stamp member _ List.mem_cons_self
  have quiet := quiet_iff kept injective fixed
  simp only [afterLoad_messageStorage]
  rw [← quiet]
  constructor
  · rintro ⟨-, zero⟩
    have written := statsAfter_written (p := p) (s := p.storageAfter forkInfo s.messageStorage x) (x := y)
      forkInfo
    have zero : p.statsAfter forkInfo (p.storageAfter forkInfo s.messageStorage x) y = ⟨0, 0, 0⟩ := zero
    rw [zero] at written
    exact List.length_eq_zero_iff.mp written.symm
  · intro nothing
    refine load_quiet kept'.aligned (fun m stored => storageAfter_forked kept.aligned stored) ?_ nothing
    intro m stored
    obtain ⟨file, present, same⟩ := exact_of_fresh kept fresh m stored
    rw [← fixed.folder] at present
    exact kept'.sourced.mem_seen injective stored (storageAfter_forked kept.aligned stored) present same

end Again

end MessagesProcessor

namespace HoleskyFixture

open MessagesProcessor

/-- What the node of the fixture knows. -/
def registry (_ : String) : Option ValidatorInfo := some (validator FAR_FUTURE_EPOCH).toInfo

/-- Two loads of signed files are told the same. -/
theorem fixed_signed {folder : List MessageFile} (signed : ∀ f ∈ folder, f = file ∨ f = ethDoFile)
    (s s' : MessageStorage) (now now' : Int) : (processor FAR_FUTURE_EPOCH).Fixed forkInfo
      (answers FAR_FUTURE_EPOCH s ⟨now, folder⟩) registry s s'
      (answers FAR_FUTURE_EPOCH s' ⟨now', folder⟩) := by
  refine ⟨rfl, rfl, rfl, fun m new => ?_, fun m new => ?_⟩
  · unfold ExitMessageWithMetadata.index
    rw [data_of_signed signed new]
    exact known new
  · unfold ExitMessageWithMetadata.index
    rw [data_of_signed signed new]
    exact known new

theorem passes_signed {f : MessageFile} {x : Answers} (signed : f = file ∨ f = ethDoFile)
    (genesis' : x.genesis = genesis) (state' : x.state = forkState) :
    (processor FAR_FUTURE_EPOCH).Passes registry (x.context forkInfo) f message := by
  refine ⟨?_, read_signed signed, accepted_message genesis' state' rfl⟩
  rcases signed with rfl | rfl
  · exact textOf_ne_empty message.textual
  · exact textOf_ne_empty ethDoMessage.textual

/-- **A second load of one file changes nothing.** -/
theorem reload_idempotent_file : ∃ stats s', (processor FAR_FUTURE_EPOCH).loadToMemoryStorage forkInfo
    (later 2 [file] (afterFirst 1)) = .ok stats s' ∧
      s'.messageStorage.messagesMetadata.get? = (afterFirst 1).messageStorage.messagesMetadata.get? ∧
      stats = ⟨0, 0, 0⟩ := by
  have signed (f : MessageFile) (member : f ∈ [file]) : f = file ∨ f = ethDoFile :=
    .inl (List.mem_singleton.mp member)
  obtain ⟨stats, run⟩ := load_first 1
  have again := load_signed (s := later 2 [file] (afterFirst 1)) signed
  refine ⟨_, _, again, ?_⟩
  have injective : Function.Injective (processor FAR_FUTURE_EPOCH).crypto.sha256 := sha256_injective
  have history : (processor FAR_FUTURE_EPOCH).History [] (.fresh ⟨1, [file]⟩) := .fresh _
  have increasing : (readings [] ++ [(1 : Int), 2]).Pairwise (· < ·) := by decide
  have whole := reload_idempotent_iff injective history (told .fresh ⟨1, [file]⟩) run
    (told (afterFirst 1).messageStorage ⟨2, [file]⟩) again increasing (fixed_signed signed _ _ 1 2)
  refine whole.mpr ?_
  rintro ⟨f, present, other, present', _, _, differ, -⟩
  have first : f = file := List.mem_singleton.mp present
  have second : other = file := List.mem_singleton.mp present'
  exact differ (by rw [first, second])

/-- The two files. -/
def both : List MessageFile := [file, ethDoFile]

/-- **Two files of one validator take turns**: a second load of them writes a message. -/
theorem reload_writes : ∃ stats s₁ stats' s₂,
    (processor FAR_FUTURE_EPOCH).loadToMemoryStorage forkInfo (.fresh ⟨1, both⟩) = .ok stats s₁ ∧
    (processor FAR_FUTURE_EPOCH).loadToMemoryStorage forkInfo (later 2 both s₁) = .ok stats' s₂ ∧
    stats'.updated + stats'.added ≠ 0 := by
  have signed (f : MessageFile) (member : f ∈ both) : f = file ∨ f = ethDoFile := List.mem_pair.mp member
  have run := load_signed (s := .fresh ⟨1, both⟩) signed
  have again := load_signed (s := later 2 both ((processor FAR_FUTURE_EPOCH).afterLoad forkInfo
    (answers FAR_FUTURE_EPOCH .fresh ⟨1, both⟩) ⟨1, both⟩ (.fresh ⟨1, both⟩))) signed
  refine ⟨_, _, _, _, run, again, ?_⟩
  intro zero
  have injective : Function.Injective (processor FAR_FUTURE_EPOCH).crypto.sha256 := sha256_injective
  have kept : (processor FAR_FUTURE_EPOCH).Kept [] .fresh := history_kept (.fresh ⟨1, both⟩)
  have quiet := quiet_iff kept injective
    (fixed_signed signed .fresh ((processor FAR_FUTURE_EPOCH).storageAfter forkInfo .fresh
      (answers FAR_FUTURE_EPOCH .fresh ⟨1, both⟩)) 1 2)
  rw [statsAfter_written, later_messageStorage, afterLoad_messageStorage, later_world,
    MessagesState.fresh_messageStorage] at zero
  refine quiet.mp (List.length_eq_zero_iff.mp zero) ?_
  have differ : file.content ≠ ethDoFile.content := textOf_ne message ethDoMessage
  have passes (f : MessageFile) (member : f ∈ both) : (processor FAR_FUTURE_EPOCH).Passes registry
      ((answers FAR_FUTURE_EPOCH .fresh ⟨1, both⟩).context forkInfo) f message :=
    passes_signed (signed f member) rfl rfl
  exact ⟨file, List.mem_cons_self, ethDoFile, List.mem_cons_of_mem _ List.mem_cons_self, message, message,
    differ, passes file List.mem_cons_self,
    passes ethDoFile (List.mem_cons_of_mem _ List.mem_cons_self), rfl⟩

end HoleskyFixture

end ValidatorEjector
