/-
**`services/job-processor/message-storage` — the exit messages that passed their check.**

One message a validator, with the stamp of the update cycle that last saw its file.

* `ExitMessage`, `ExitMessageWithMetadata` — a message, and where it came from.
* `MessageStorage` — the two maps; the message under an index is one of that index.
* `addOrUpdateMessage`, `updateMessages`, `touchMessageWithChecksum` — what a cycle writes.
* `removeMessage`, `removeOldForkVersionMessages`, `removeOldMessages` — what it drops.
* `of_stores_updateMessages`, `stores_removeOldForkVersionMessages`, … — what is stored afterwards.
-/

import ValidatorEjector.Library.OrderedMap

namespace ValidatorEjector

open Library

/-- The `message` member of an exit message. -/
structure VoluntaryExit where
  epoch : String
  validator_index : String
  deriving DecidableEq

/-- A signed voluntary exit. -/
structure ExitMessage where
  message : VoluntaryExit
  signature : String
  deriving DecidableEq

/-- Where a message came from, and the fork it was loaded under. -/
structure MessageMetadata where
  fileChecksum : String
  filename : String
  forkVersion : String
  deriving DecidableEq

structure ExitMessageWithMetadata where
  data : ExitMessage
  «meta» : MessageMetadata
  deriving DecidableEq

/-- The validator a message is about. -/
abbrev ExitMessageWithMetadata.index (m : ExitMessageWithMetadata) : String :=
  m.data.message.validator_index

/-- **The storage**: the stamp of the running cycle, the stamp of each message, and the messages. -/
structure MessageStorage where
  LAST_UPDATE : Int
  messagesLastUpdate : OrderedMap String Int
  messagesMetadata : OrderedMap String ExitMessageWithMetadata
  indexed : ∀ i m, (i, m) ∈ messagesMetadata.entries → m.index = i

namespace MessageStorage

/-- `new MessageStorage()`. -/
def fresh : MessageStorage := ⟨0, .empty, .empty, fun _ _ member => by cases member⟩

/-- What `addOrUpdateMessage` did. -/
inductive Result
  | UPDATED
  | ADDED
  deriving DecidableEq

def setLastUpdate (validatorIndex : String) (lastUpdate : Int) (s : MessageStorage) : MessageStorage :=
  { s with messagesLastUpdate := s.messagesLastUpdate.set validatorIndex lastUpdate }

/-- `messagesMetadata.set` under the index of the message. -/
def setMessage (m : ExitMessageWithMetadata) (s : MessageStorage) : MessageStorage :=
  { s with
    messagesMetadata := s.messagesMetadata.set m.index m
    indexed := by
      intro i u member
      rcases OrderedMap.mem_set.mp member with ⟨rfl, rfl⟩ | ⟨_, member⟩
      · rfl
      · exact s.indexed i u member }

def addOrUpdateMessage (m : ExitMessageWithMetadata) (s : MessageStorage) : Result × MessageStorage :=
  let hasMsg := (s.messagesMetadata.get? m.index).isSome
  let s := (s.setMessage m).setLastUpdate m.index s.LAST_UPDATE
  (if hasMsg then .UPDATED else .ADDED, s)

/-- `startUpdateCycle`, at a reading of the clock. -/
def startUpdateCycle (now : Int) (s : MessageStorage) : MessageStorage := { s with LAST_UPDATE := now }

/-- The counts `updateMessages` returns. -/
structure UpdateStats where
  updated : Nat
  added : Nat
  deriving DecidableEq

/-- The messages added one after the other, with what became of each. -/
def addAll : List ExitMessageWithMetadata → MessageStorage → List Result × MessageStorage
  | [], s => ([], s)
  | m :: ms, s =>
    let (result, s) := s.addOrUpdateMessage m
    let (results, s) := addAll ms s
    (result :: results, s)

def updateMessages (messagesWithMetadata : List ExitMessageWithMetadata) (s : MessageStorage) :
    UpdateStats × MessageStorage :=
  let (processResults, s) := addAll messagesWithMetadata s
  (⟨processResults.count .UPDATED, processResults.count .ADDED⟩, s)

/-- The first message whose file has the checksum gets the stamp of the cycle. -/
def touchMessageWithChecksum (fileChecksum : String) (s : MessageStorage) : Bool × MessageStorage :=
  match s.messagesMetadata.values.find? fun m => m.meta.fileChecksum = fileChecksum with
  | some m => (true, s.setLastUpdate m.index s.LAST_UPDATE)
  | none => (false, s)

def removeMessage (validatorIndex : String) (s : MessageStorage) : MessageStorage :=
  { s with
    messagesLastUpdate := s.messagesLastUpdate.delete validatorIndex
    messagesMetadata := s.messagesMetadata.delete validatorIndex
    indexed := fun i m member => s.indexed i m (OrderedMap.mem_delete.mp member).2 }

/-- The loop over the entries of a `Map` while it deletes the entry it is at. -/
def removeOldForkVersionMessages (forkVersion : String) (s : MessageStorage) : MessageStorage :=
  s.messagesMetadata.entries.foldl (fun s entry =>
    if entry.2.meta.forkVersion = forkVersion then s else s.removeMessage entry.1) s

/-- One turn of `removeOldMessages`. -/
def removeTurn (state : Nat × MessageStorage) (entry : String × Int) : Nat × MessageStorage :=
  if entry.2 < state.2.LAST_UPDATE then (state.1 + 1, state.2.removeMessage entry.1) else state

/-- The messages the cycle has not seen are dropped, and counted. -/
def removeOldMessages (s : MessageStorage) : Nat × MessageStorage :=
  s.messagesLastUpdate.entries.foldl removeTurn (0, s)

def findByValidatorIndex (index : String) (s : MessageStorage) : Option ExitMessage :=
  (s.messagesMetadata.get? index).map ExitMessageWithMetadata.data

def messages (s : MessageStorage) : List ExitMessage :=
  s.messagesMetadata.values.map ExitMessageWithMetadata.data

def size (s : MessageStorage) : Nat := s.messagesMetadata.size

/-! ### What is stored -/

section Stored

variable {s : MessageStorage} {m : ExitMessageWithMetadata} {i forkVersion fileChecksum : String}

/-- The message is stored for its validator. -/
def Stores (s : MessageStorage) (m : ExitMessageWithMetadata) : Prop :=
  s.messagesMetadata.get? m.index = some m

theorem stores_iff : s.Stores m ↔ (m.index, m) ∈ s.messagesMetadata.entries := OrderedMap.get?_eq_some

/-- What is found under an index is stored, and of that index. -/
theorem stores_of_get? (found : s.messagesMetadata.get? i = some m) : s.Stores m ∧ m.index = i := by
  have same : m.index = i := s.indexed i m (OrderedMap.get?_eq_some.mp found)
  rw [← same] at found
  exact ⟨found, same⟩

theorem mem_values : m ∈ s.messagesMetadata.values ↔ s.Stores m := by
  rw [stores_iff]
  constructor
  · intro member
    obtain ⟨⟨i, u⟩, inside, rfl⟩ := List.mem_map.mp member
    have same : u.index = i := s.indexed i u inside
    rw [same]
    exact inside
  · exact fun inside => List.mem_map.mpr ⟨_, inside, rfl⟩

@[simp] theorem not_stores_fresh : ¬ fresh.Stores m := by
  intro stored
  cases stores_iff.mp stored

@[simp] theorem stores_startUpdateCycle {now : Int} : (s.startUpdateCycle now).Stores m ↔ s.Stores m :=
  Iff.rfl

@[simp] theorem messagesMetadata_touch :
    (s.touchMessageWithChecksum fileChecksum).2.messagesMetadata = s.messagesMetadata := by
  unfold touchMessageWithChecksum
  cases s.messagesMetadata.values.find? fun m => m.meta.fileChecksum = fileChecksum with
  | some m => rfl
  | none => rfl

theorem stores_addOrUpdateMessage {u : ExitMessageWithMetadata} :
    (s.addOrUpdateMessage u).2.Stores m ↔ m = u ∨ (m.index ≠ u.index ∧ s.Stores m) := by
  rw [stores_iff, stores_iff]
  show (m.index, m) ∈ (s.messagesMetadata.set u.index u).entries ↔ _
  rw [OrderedMap.mem_set]
  constructor
  · rintro (⟨_, same⟩ | other)
    · exact .inl same
    · exact .inr other
  · rintro (rfl | other)
    · exact .inl ⟨rfl, rfl⟩
    · exact .inr other

/-- What is stored after an update was stored before or is one of the new messages. -/
theorem of_stores_updateMessages : ∀ {ms : List ExitMessageWithMetadata} {s : MessageStorage},
    (s.updateMessages ms).2.Stores m → s.Stores m ∨ m ∈ ms
  | [], _, stored => .inl stored
  | u :: ms, s, stored => by
    have rest : (s.addOrUpdateMessage u).2.Stores m ∨ m ∈ ms := of_stores_updateMessages stored
    rcases rest with before | member
    · rcases stores_addOrUpdateMessage.mp before with rfl | ⟨_, before⟩
      · exact .inr List.mem_cons_self
      · exact .inl before
    · exact .inr (List.mem_cons_of_mem u member)

theorem stores_removeMessage : (s.removeMessage i).Stores m ↔ m.index ≠ i ∧ s.Stores m := by
  rw [stores_iff, stores_iff]
  exact OrderedMap.mem_delete

/-- Removals leave what none of them names. -/
theorem stores_removals {α : Type} (drop : α → Option String) : ∀ (as : List α) (s : MessageStorage),
    (as.foldl (fun s a => (drop a).elim s s.removeMessage) s).Stores m ↔
      s.Stores m ∧ ∀ a ∈ as, drop a ≠ some m.index
  | [], s => by simp
  | a :: as, s => by
    rw [List.foldl_cons, stores_removals drop as, List.forall_mem_cons]
    cases named : drop a with
    | none => simp
    | some i =>
      rw [Option.elim_some, stores_removeMessage, Ne, Ne, Option.some_inj, eq_comm (a := i)]
      exact ⟨fun ⟨⟨other, stored⟩, rest⟩ => ⟨stored, other, rest⟩,
        fun ⟨stored, other, rest⟩ => ⟨⟨other, stored⟩, rest⟩⟩

/-- **Only the messages of the fork are left.** -/
theorem stores_removeOldForkVersionMessages :
    (s.removeOldForkVersionMessages forkVersion).Stores m ↔
      s.Stores m ∧ m.meta.forkVersion = forkVersion := by
  have loop : s.removeOldForkVersionMessages forkVersion = s.messagesMetadata.entries.foldl
      (fun s entry => (if entry.2.meta.forkVersion = forkVersion then none else some entry.1).elim s
        s.removeMessage) s := by
    unfold removeOldForkVersionMessages
    congr 1
    funext s entry
    by_cases same : entry.2.meta.forkVersion = forkVersion
    · rw [if_pos same, if_pos same]
      rfl
    · rw [if_neg same, if_neg same]
      rfl
  rw [loop, stores_removals]
  refine and_congr_right fun stored => ⟨fun kept => ?_, fun same entry inside => ?_⟩
  · by_contra other
    refine kept (m.index, m) (stores_iff.mp stored) ?_
    rw [if_neg other]
  · by_cases current : entry.2.meta.forkVersion = forkVersion
    · rw [if_pos current]
      exact (Option.some_ne_none _).symm
    · rw [if_neg current]
      intro named
      have found : s.messagesMetadata.get? m.index = some entry.2 := by
        rw [← Option.some.inj named]
        exact OrderedMap.get?_eq_some.mpr inside
      rw [stored] at found
      rw [← Option.some.inj found] at current
      exact current same

/-- What is left after the prune was stored before. -/
theorem of_stores_removeOldMessages (stored : s.removeOldMessages.2.Stores m) : s.Stores m := by
  have loop : ∀ (entries : List (String × Int)) (state : Nat × MessageStorage),
      (entries.foldl removeTurn state).2.Stores m → state.2.Stores m := by
    intro entries
    induction entries with
    | nil => exact fun _ stored => stored
    | cons entry entries ih =>
      intro state stored
      have left := ih _ stored
      unfold removeTurn at left
      by_cases old : entry.2 < state.2.LAST_UPDATE
      · rw [if_pos old] at left
        exact (stores_removeMessage.mp left).2
      · rw [if_neg old] at left
        exact left
  exact loop _ _ stored

end Stored

end MessageStorage

end ValidatorEjector
