/-
**The books of the storage.**

* `StorageOp`, `apply` — the operations; `Change`, `changes` — what each writes and removes.
* `runOps` — any sequence of operations, with the history of its changes.
* `lastWritten` — the last message written for a validator that has not been removed since.
* `runOps_represents` — the two maps have the same keys, and a lookup gives what was written last.
* `size_storageAfter` — the counts of a load add up; `keeps_books` — all of it.
-/

import ValidatorEjector.Messages.Isolation

namespace ValidatorEjector

open Js Library Library.Program

namespace MessageStorage

/-- A public operation on the storage. -/
inductive StorageOp
  | startUpdateCycle (now : Int)
  | updateMessages (messagesWithMetadata : List ExitMessageWithMetadata)
  | touchMessageWithChecksum (fileChecksum : String)
  | removeOldForkVersionMessages (forkVersion : String)
  | removeOldMessages

/-- What happens to the message of a validator. -/
inductive Change
  | written (m : ExitMessageWithMetadata)
  | removed (validatorIndex : String)

def StorageOp.apply : StorageOp → MessageStorage → MessageStorage
  | .startUpdateCycle now, s => s.startUpdateCycle now
  | .updateMessages messages, s => (s.updateMessages messages).2
  | .touchMessageWithChecksum fileChecksum, s => (s.touchMessageWithChecksum fileChecksum).2
  | .removeOldForkVersionMessages forkVersion, s => s.removeOldForkVersionMessages forkVersion
  | .removeOldMessages, s => s.removeOldMessages.2

/-- What an operation is there to change: it writes its messages, and removes those of another fork or
with a stamp older than the cycle. -/
def StorageOp.changes : StorageOp → MessageStorage → List Change
  | .updateMessages messages, _ => messages.map .written
  | .removeOldForkVersionMessages forkVersion, s =>
    (s.messagesMetadata.values.filter fun m => m.meta.forkVersion ≠ forkVersion).map
      fun m => .removed m.index
  | .removeOldMessages, s =>
    (s.messagesLastUpdate.entries.filter fun e => e.2 < s.LAST_UPDATE).map fun e => .removed e.1
  | _, _ => []

/-- A sequence of operations on a new storage, and all their changes in order. -/
def runOps : List StorageOp → MessageStorage × List Change :=
  List.foldl (fun (s, history) op => (op.apply s, history ++ op.changes s)) (fresh, [])

/-- The effect of a change on the last message of a validator. -/
def afterChange (validatorIndex : String) (last : Option ExitMessageWithMetadata) :
    Change → Option ExitMessageWithMetadata
  | .written m => if m.index = validatorIndex then some m else last
  | .removed i => if i = validatorIndex then none else last

/-- The last message written for a validator, unless it has been removed since. -/
def lastWritten (validatorIndex : String) (history : List Change) : Option ExitMessageWithMetadata :=
  history.foldl (afterChange validatorIndex) none

/-! ### Every sequence of operations -/

section Represents

variable {s : MessageStorage} {i : String}

theorem foldl_removed (last : Option ExitMessageWithMetadata) : ∀ indices : List String,
    (indices.map Change.removed).foldl (afterChange i) last = if i ∈ indices then none else last
  | [] => by simp
  | j :: indices => by
    rw [List.map_cons, List.foldl_cons, foldl_removed]
    by_cases same : j = i
    · simp [afterChange, same]
    · simp [afterChange, same, Ne.symm same]

theorem get?_removals {indices : List String} : (s.removals indices).messagesMetadata.get? i =
    if i ∈ indices then none else s.messagesMetadata.get? i := by
  rw [← value?_table, ← value?_table]
  unfold Stamped.value?
  rw [cell_removals]
  by_cases inside : i ∈ indices
  · rw [if_pos inside, if_pos inside]
    rfl
  · rw [if_neg inside, if_neg inside]

theorem get?_updateMessages : ∀ (ms : List ExitMessageWithMetadata) (s : MessageStorage),
    (s.updateMessages ms).2.messagesMetadata.get? i =
      (ms.map Change.written).foldl (afterChange i) (s.messagesMetadata.get? i)
  | [], _ => rfl
  | m :: ms, s => by
    have rest := get?_updateMessages ms (s.addOrUpdateMessage m).2
    have first : (s.addOrUpdateMessage m).2.messagesMetadata.get? i =
        afterChange i (s.messagesMetadata.get? i) (.written m) := by
      show (s.messagesMetadata.set m.index m).get? i = _
      rw [OrderedMap.get?_set]
      by_cases same : m.index = i
      · simp [afterChange, same]
      · simp [afterChange, same, Ne.symm same]
    rw [first] at rest
    exact rest

/-- **One operation** changes a lookup as its changes say. -/
theorem get?_apply (op : StorageOp) : (op.apply s).messagesMetadata.get? i =
    (op.changes s).foldl (afterChange i) (s.messagesMetadata.get? i) := by
  cases op with
  | startUpdateCycle now => rfl
  | updateMessages messages => exact get?_updateMessages messages s
  | touchMessageWithChecksum fileChecksum =>
    show (s.touchMessageWithChecksum fileChecksum).2.messagesMetadata.get? i = _
    rw [messagesMetadata_touch]
    rfl
  | removeOldForkVersionMessages forkVersion =>
    have indices : (s.messagesMetadata.values.filter fun m => m.meta.forkVersion ≠ forkVersion).map
        ExitMessageWithMetadata.index =
        (s.messagesMetadata.entries.filter fun e => e.2.meta.forkVersion ≠ forkVersion).map Prod.fst := by
      unfold OrderedMap.values
      rw [List.filter_map, List.map_map]
      exact List.map_congr_left fun e member => s.indexed e.1 e.2 (List.mem_filter.mp member).1
    show (s.removeOldForkVersionMessages forkVersion).messagesMetadata.get? i =
      ((s.messagesMetadata.values.filter _).map (Change.removed ∘ ExitMessageWithMetadata.index)).foldl
        (afterChange i) _
    rw [removeOldForkVersionMessages_eq, get?_removals, ← List.map_map, indices, foldl_removed]
  | removeOldMessages =>
    show s.removeOldMessages.2.messagesMetadata.get? i =
      (s.oldEntries.map (Change.removed ∘ Prod.fst)).foldl (afterChange i) _
    rw [removeOldMessages_eq, get?_removals, ← List.map_map, foldl_removed]

theorem aligned_apply (op : StorageOp) (aligned : s.Aligned) : (op.apply s).Aligned := by
  cases op with
  | startUpdateCycle now => exact aligned_startUpdateCycle aligned
  | updateMessages messages => exact aligned_updateMessages aligned
  | touchMessageWithChecksum fileChecksum => exact aligned_touchMessageWithChecksum aligned
  | removeOldForkVersionMessages forkVersion => exact aligned_removeOldForkVersionMessages aligned
  | removeOldMessages => exact aligned_removeOldMessages aligned

/-- **Every storage keeps its books**: the two maps have the same keys, a message is stored under its
index, and a lookup gives the last message written that was not removed since. -/
theorem runOps_represents (ops : List StorageOp) :
    (runOps ops).1.Aligned ∧
    (∀ m i, (runOps ops).1.messagesMetadata.get? i = some m → m.index = i) ∧
    ∀ i, (runOps ops).1.messagesMetadata.get? i = lastWritten i (runOps ops).2 := by
  refine ⟨?_, fun m i found => (stores_of_get? found).2, ?_⟩
  · induction ops using List.reverseRecOn with
    | nil => exact aligned_fresh
    | append_singleton ops op ih =>
      unfold runOps
      rw [List.foldl_append]
      exact aligned_apply op ih
  · intro i
    induction ops using List.reverseRecOn with
    | nil => rfl
    | append_singleton ops op ih =>
      unfold runOps
      rw [List.foldl_append]
      show (op.apply (runOps ops).1).messagesMetadata.get? i =
        lastWritten i ((runOps ops).2 ++ op.changes (runOps ops).1)
      rw [get?_apply, ih]
      unfold lastWritten
      rw [List.foldl_append]

end Represents

end MessageStorage

/-! ### The counts of a load -/

namespace MessagesProcessor

variable {σ : Type} {p : MessagesProcessor σ} {forkInfo : ForkVersionInfo} {s : MessageStorage}
  {x : Answers}

/-- What is stored after a load is of the fork. -/
theorem storageAfter_forked (aligned : s.Aligned) {m : ExitMessageWithMetadata}
    (stored : (p.storageAfter forkInfo s x).Stores m) :
    m.meta.forkVersion = forkInfo.currentVersion := by
  rcases (stores_storageAfter aligned).mp stored with last | ⟨_, _, _, forked, _⟩
  · obtain ⟨_, _, _, made⟩ := mem_newMessages.mp (mem_verifiedMessages.mp (mem_of_keyed last).1).1
    rw [made]
  · exact forked

/-- The messages of the fork, those that were removed and those that were added are all there is. -/
theorem size_storageAfter (aligned : s.Aligned) :
    (p.storageAfter forkInfo s x).size + (p.statsAfter forkInfo s x).removed =
      (s.messagesMetadata.values.countP fun m => m.meta.forkVersion = forkInfo.currentVersion) +
        (p.statsAfter forkInfo s x).added := by
  have open_aligned : (opening forkInfo s x.now).Aligned := aligned_opening aligned
  have before : (opening forkInfo s x.now).size =
      s.messagesMetadata.values.countP fun m => m.meta.forkVersion = forkInfo.currentVersion := by
    show (opening forkInfo s x.now).messagesMetadata.entries.length = _
    unfold opening OrderedMap.values
    rw [MessageStorage.removeOldForkVersionMessages_entries, List.countP_map,
      List.countP_eq_length_filter]
    rfl
  have touched : (x.folder.foldl p.touchFile (opening forkInfo s x.now)).size =
      (opening forkInfo s x.now).size := by
    show OrderedMap.size _ = OrderedMap.size _
    rw [touchFiles_messages]
  have pruned := MessageStorage.size_removeOldMessages (aligned_touchFiles (p := p) open_aligned x.folder)
  have updated := (MessageStorage.updateMessages_counts (p.verifiedMessages forkInfo s x)
    (p.pruned forkInfo s x).2).2.2
  have after : (p.storageAfter forkInfo s x).size =
      (p.pruned forkInfo s x).2.size + (p.statsAfter forkInfo s x).added := updated
  have left : (p.pruned forkInfo s x).2.size + (p.statsAfter forkInfo s x).removed =
      (x.folder.foldl p.touchFile (opening forkInfo s x.now)).size := pruned
  omega

end MessagesProcessor

/-- **The storage keeps its books.** After any operations its two maps have the same keys, a message is
stored under its index, and a lookup gives the last message written that was not removed since. After a
load from there everything is of the current fork, the size is what was of that fork without the removed
and with the added messages, and what is updated are the overwritten messages. -/
theorem MessageStorage.keeps_books (ops : List StorageOp) :
    ((runOps ops).1.messagesLastUpdate.keys = (runOps ops).1.messagesMetadata.keys ∧
      (∀ i m, (i, m) ∈ (runOps ops).1.messagesMetadata.entries → m.index = i) ∧
      ∀ i, (runOps ops).1.findByValidatorIndex i =
        (lastWritten i (runOps ops).2).map ExitMessageWithMetadata.data) ∧
    ∀ {σ : Type} (p : MessagesProcessor σ) (forkInfo : ForkVersionInfo) (s s' : MessagesState σ)
      (stats : MessagesProcessor.LoadStats), s.messageStorage = (runOps ops).1 →
      p.loadToMemoryStorage forkInfo s = .ok stats s' →
      (∀ m ∈ s'.messageStorage.messagesMetadata.values, m.meta.forkVersion = forkInfo.currentVersion) ∧
      (s'.messageStorage.size : Int) =
        (s.messageStorage.messagesMetadata.values.countP fun m =>
          m.meta.forkVersion = forkInfo.currentVersion) - stats.removed + stats.added ∧
      ∃ x w, p.Told forkInfo s.messageStorage x s.world w ∧
        stats.updated = overwrites (p.pruned forkInfo s.messageStorage x).2.messagesMetadata.keys
          (p.verifiedMessages forkInfo s.messageStorage x) := by
  obtain ⟨aligned, indexed, found⟩ := runOps_represents ops
  refine ⟨⟨aligned, (runOps ops).1.indexed, fun i => ?_⟩, ?_⟩
  · unfold findByValidatorIndex
    rw [found]
  · intro σ p forkInfo s s' stats reached loaded
    rw [← reached] at aligned
    obtain ⟨x, w, told, -, rfl, rfl⟩ := MessagesProcessor.load_ok_iff.mp loaded
    refine ⟨fun m stored => ?_, ?_, x, w, told, ?_⟩
    · exact MessagesProcessor.storageAfter_forked aligned (MessageStorage.mem_values.mp stored)
    · have size : (p.storageAfter forkInfo s.messageStorage x).size +
          (p.statsAfter forkInfo s.messageStorage x).removed = _ :=
        MessagesProcessor.size_storageAfter aligned
      show ((p.storageAfter forkInfo s.messageStorage x).size : Int) = _
      omega
    · exact (updateMessages_counts _ _).1

namespace HoleskyFixture

open MessageStorage

/-- The message from an earlier file. -/
def outdated : ExitMessageWithMetadata := ⟨message, ⟨"0", "old.json", CAPELLA_FORK_VERSION⟩⟩

/-- A message of another fork. -/
def foreign : ExitMessageWithMetadata := ⟨⟨⟨"28624", "5"⟩, signature⟩, ⟨"5", "5.json", "0x03017000"⟩⟩

/-- A message whose file goes. -/
def idle : ExitMessageWithMetadata := ⟨⟨⟨"28624", "6"⟩, signature⟩, ⟨"6", "6.json", CAPELLA_FORK_VERSION⟩⟩

/-- Two cycles: the message is overwritten in the first and touched in the second, which removes the
others. -/
def cycles : List StorageOp :=
  [.startUpdateCycle 1, .updateMessages [outdated, foreign, idle], .updateMessages [stored],
    .startUpdateCycle 2, .touchMessageWithChecksum fileChecksum,
    .removeOldForkVersionMessages CAPELLA_FORK_VERSION, .removeOldMessages]

/-- The state with this storage, before a load of the file. -/
def afterCycles : MessagesState Moment :=
  { MessagesState.fresh ⟨3, [file]⟩ with messageStorage := (runOps cycles).1 }

/-- **The books after two cycles, and after a load.** -/
theorem keeps_books_cycles :
    ((runOps cycles).1.findByValidatorIndex "828943" = some message ∧
      (runOps cycles).1.findByValidatorIndex "5" = none ∧
      (runOps cycles).1.findByValidatorIndex "6" = none) ∧
    ∃ stats s', (processor FAR_FUTURE_EPOCH).loadToMemoryStorage forkInfo afterCycles = .ok stats s' ∧
      (∀ m ∈ s'.messageStorage.messagesMetadata.values, m.meta.forkVersion = CAPELLA_FORK_VERSION) ∧
      (s'.messageStorage.size : Int) = 1 - stats.removed + stats.added := by
  obtain ⟨⟨-, -, found⟩, loads⟩ := MessageStorage.keeps_books cycles
  have loaded := load_signed (s := afterCycles) fun f member =>
    .inl (List.mem_singleton.mp (show f ∈ [file] from member))
  obtain ⟨forked, size, -⟩ := loads (processor FAR_FUTURE_EPOCH) forkInfo _ _ _ rfl loaded
  refine ⟨⟨?_, ?_, ?_⟩, _, _, loaded, forked, ?_⟩
  · rw [found]
    decide +kernel
  · rw [found]
    decide +kernel
  · rw [found]
    decide +kernel
  · have one : (afterCycles.messageStorage.messagesMetadata.values.countP fun m =>
        m.meta.forkVersion = forkInfo.currentVersion) = 1 := by decide +kernel
    rw [one] at size
    exact size

end HoleskyFixture

end ValidatorEjector
