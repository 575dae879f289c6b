/-
**A load that fails does no harm.**

It may have dropped the messages of another fork and touched some stamps; the next load of the same fork
opens the same messages, and its own stamp is newer than all of these.

* `opening_failed` — the messages that are opened after a failure are those that were opened before.
* `newMessages_congr`, `verifiedMessages_congr`, `seen_congr` — a load depends on the storage through the
  messages it opens.
* `failed_load_harmless` — the next load leaves the same messages as without the failure.
-/

import ValidatorEjector.Messages.Pruning

namespace ValidatorEjector

open Js Library Library.Program

namespace MessagesProcessor

variable {σ : Type} {p : MessagesProcessor σ} {forkInfo forkInfo' : ForkVersionInfo}

/-! ### What a load depends on -/

section Congruence

variable {s u : MessageStorage} {x : Answers}

theorem newMessages_congr
    (same : (opening forkInfo s x.now).messagesMetadata = (opening forkInfo u x.now).messagesMetadata) :
    p.newMessages forkInfo s x = p.newMessages forkInfo u x := by
  unfold newMessages
  rw [same]

theorem verifiedMessages_congr
    (same : (opening forkInfo s x.now).messagesMetadata = (opening forkInfo u x.now).messagesMetadata) :
    p.verifiedMessages forkInfo s x = p.verifiedMessages forkInfo u x := by
  unfold verifiedMessages
  rw [newMessages_congr same]

theorem seen_congr
    (same : (opening forkInfo s x.now).messagesMetadata = (opening forkInfo u x.now).messagesMetadata) :
    p.seen forkInfo s x = p.seen forkInfo u x := by
  have indices : p.seenIndex (opening forkInfo s x.now) = p.seenIndex (opening forkInfo u x.now) := by
    funext file
    unfold seenIndex MessageStorage.findByChecksum
    rw [same]
  unfold seen
  rw [indices]

theorem told_congr {w v : σ}
    (same : (opening forkInfo s x.now).messagesMetadata = (opening forkInfo u x.now).messagesMetadata)
    (told : p.Told forkInfo s x w v) : p.Told forkInfo u x w v := by
  cases told with
  | webhook absent now unasked => exact .webhook absent now unasked
  | messages present now folder genesis state infos =>
    rw [newMessages_congr same] at infos
    exact .messages present now folder genesis state infos

theorem orderly_congr
    (same : (opening forkInfo s x.now).messagesMetadata = (opening forkInfo u x.now).messagesMetadata)
    (orderly : p.Orderly forkInfo s x) : p.Orderly forkInfo u x where
  opened := by
    rw [← same]
    exact orderly.opened
  checked := by
    rw [← newMessages_congr same]
    exact orderly.checked

end Congruence

/-! ### The storage after a failure -/

section Failed

variable {s : MessageStorage} {now later : Int}

/-- What is opened after a failure is what would have been opened before. -/
theorem opening_failed (fork : forkInfo'.currentVersion = forkInfo.currentVersion)
    (files : List MessageFile) :
    (opening forkInfo' (files.foldl p.touchFile (opening forkInfo s now)) later).messagesMetadata =
      (opening forkInfo' s later).messagesMetadata := by
  apply OrderedMap.ext
  unfold opening
  rw [MessageStorage.removeOldForkVersionMessages_entries,
    MessageStorage.removeOldForkVersionMessages_entries]
  show (files.foldl p.touchFile _).messagesMetadata.entries.filter _ = _
  rw [touchFiles_messages, MessageStorage.removeOldForkVersionMessages_entries, List.filter_filter]
  refine List.filter_congr fun e _ => ?_
  rw [fork, Bool.and_self]

/-- After a failure the previous messages of the fork are stored, and nothing else. -/
theorem get?_failed (files : List MessageFile) (i : String) :
    (files.foldl p.touchFile (opening forkInfo s now)).messagesMetadata.get? i =
      (s.messagesMetadata.get? i).filter fun m => m.meta.forkVersion = forkInfo.currentVersion := by
  rw [touchFiles_messages, ← MessageStorage.value?_table, ← MessageStorage.value?_table]
  have table : (opening forkInfo s now).table = _ := MessageStorage.table_removeOldForkVersionMessages
  rw [table]
  unfold Stamped.value? Stamped.keep
  show ((s.table.cell i).filter _).map Prod.fst = _
  cases s.table.cell i with
  | none => rfl
  | some c =>
    by_cases forked : c.1.meta.forkVersion = forkInfo.currentVersion
    · simp [Option.filter, forked]
    · simp [Option.filter, forked]

end Failed

/-- **Older stamps do not matter**: storages that open the same messages store the same messages after a
load with a stamp of its own. -/
theorem storageAfter_congr {s u : MessageStorage} {x : Answers} {stamps : List Int}
    (kept : p.Kept stamps s) (kept' : p.Kept stamps u) (fresh : ∀ stamp ∈ stamps, stamp < x.now)
    (same : (opening forkInfo s x.now).messagesMetadata = (opening forkInfo u x.now).messagesMetadata) :
    (p.storageAfter forkInfo s x).messagesMetadata.get? =
      (p.storageAfter forkInfo u x).messagesMetadata.get? := by
  have values (v : MessageStorage) (i : String) :
      (v.table.keep fun m => m.meta.forkVersion = forkInfo.currentVersion).value? i =
        (opening forkInfo v x.now).messagesMetadata.get? i := by
    have table : (opening forkInfo v x.now).table = _ :=
      MessageStorage.table_removeOldForkVersionMessages
    rw [← MessageStorage.value?_table, table]
    rfl
  have older {v : MessageStorage} (kept : p.Kept stamps v) (i : String) (m : ExitMessageWithMetadata)
      (stamp : Int)
      (held : (v.table.keep fun m => m.meta.forkVersion = forkInfo.currentVersion).cell i =
        some (m, stamp)) : stamp < x.now :=
    fresh stamp (kept.stamped i m stamp (Option.filter_eq_some_iff.mp held).1)
  funext i
  rw [← MessageStorage.value?_table, ← MessageStorage.value?_table, table_storageAfter kept.aligned,
    table_storageAfter kept'.aligned, seen_congr same, verifiedMessages_congr same]
  refine congrFun (Stamped.cycle_congr (fun j => ?_) (older kept) (older kept')) i
  rw [values, values, same]

/-- **A failed load is harmless.** It leaves the previous messages of its fork, and the next load of that
fork, which resolves, would have resolved with the same messages without it. -/
theorem failed_load_harmless {calls : List Call} {s s' : MessagesState σ} {e : Failure}
    (history : p.History calls s) (failed : p.loadToMemoryStorage forkInfo s = .error e s') :
    (∀ i, s'.messageStorage.messagesMetadata.get? i = (s.messageStorage.messagesMetadata.get? i).filter
      fun m => m.meta.forkVersion = forkInfo.currentVersion) ∧
    ∀ forkInfo' w stats t, forkInfo'.currentVersion = forkInfo.currentVersion →
      (readings calls ++ [(p.outside.now s.world).1, (p.outside.now w).1]).Pairwise (· < ·) →
      p.loadToMemoryStorage forkInfo' { s' with world := w } = .ok stats t →
      ∃ stats' t', p.loadToMemoryStorage forkInfo' { s with world := w } = .ok stats' t' ∧
        t'.world = t.world ∧
        t'.messageStorage.messagesMetadata.get? = t.messageStorage.messagesMetadata.get? := by
  have kept := history_kept history
  obtain ⟨files, touched⟩ := load_failed failed
  refine ⟨fun i => ?_, fun forkInfo' w stats t fork increasing run => ?_⟩
  · rw [touched]
    exact get?_failed files i
  · obtain ⟨x, v, told, orderly, -, rfl⟩ := load_ok_iff.mp run
    have now : x.now = (p.outside.now w).1 := by
      cases told with
      | webhook _ asked _ => rw [asked]
      | messages _ asked => rw [asked]
    have same : (opening forkInfo' s'.messageStorage x.now).messagesMetadata =
        (opening forkInfo' s.messageStorage x.now).messagesMetadata := by
      rw [touched]
      exact opening_failed fork files
    have after : p.Kept (readings calls ++ [(p.outside.now s.world).1]) s'.messageStorage := by
      rw [touched]
      exact kept_touched kept files
    have before : p.Kept (readings calls ++ [(p.outside.now s.world).1]) s.messageStorage :=
      ⟨kept.aligned, kept.sourced, fun i m stamp held =>
        List.mem_append_left _ (kept.stamped i m stamp held)⟩
    have fresh : ∀ stamp ∈ readings calls ++ [(p.outside.now s.world).1], stamp < x.now := by
      rw [now]
      rw [show [(p.outside.now s.world).1, (p.outside.now w).1] =
        [(p.outside.now s.world).1] ++ [(p.outside.now w).1] from rfl, ← List.append_assoc] at increasing
      exact fun stamp member => (List.pairwise_append.mp increasing).2.2 stamp member _
        (List.mem_singleton_self _)
    refine ⟨_, _, load_ok_iff.mpr ⟨x, v, told_congr same told, orderly_congr same orderly, rfl, rfl⟩, rfl,
      ?_⟩
    exact (storageAfter_congr after before fresh same).symm

end MessagesProcessor

namespace HoleskyFixture

open MessagesProcessor

/-- A folder with a primitive value rejects every load: no such file is ever stored. -/
theorem load_seven {calls : List Call} {s : MessagesState Moment}
    (history : (processor FAR_FUTURE_EPOCH).History calls s) (inside : seven ∈ s.world.folder) :
    ∃ e s', (processor FAR_FUTURE_EPOCH).loadToMemoryStorage forkInfo s = .error e s' := by
  cases run : (processor FAR_FUTURE_EPOCH).loadToMemoryStorage forkInfo s with
  | error e s' => exact ⟨e, s', rfl⟩
  | ok stats s' =>
    refine absurd run (load_seven_ne_ok inside fun x => Bool.eq_false_iff.mpr fun seen => ?_)
    obtain ⟨m, opened, checksum⟩ := isSeen_iff.mp seen
    obtain ⟨content, -, checksum', read⟩ :=
      (history_kept history).sourced m (stores_opening.mp opened).1
    rw [sha256_injective (checksum'.symm.trans checksum)] at read
    obtain ⟨failure, thrown⟩ := seven_thrown
    cases thrown.symm.trans read

/-- **A failed load, and the next one**: the message stored before stays, and the next load stores what it
would store without the failure. -/
theorem failed_load_harmless_stored : ∃ s, s.world = ⟨2, [file, seven]⟩ ∧
    s.messageStorage.findByValidatorIndex "828943" = some message ∧ ∃ e s' stats t stats' t',
    (processor FAR_FUTURE_EPOCH).loadToMemoryStorage forkInfo s = .error e s' ∧
    s'.messageStorage.findByValidatorIndex "828943" = some message ∧
    (processor FAR_FUTURE_EPOCH).loadToMemoryStorage forkInfo (later 3 [file] s') = .ok stats t ∧
    (processor FAR_FUTURE_EPOCH).loadToMemoryStorage forkInfo (later 3 [file] s) = .ok stats' t' ∧
    t'.messageStorage.messagesMetadata.get? = t.messageStorage.messagesMetadata.get? := by
  obtain ⟨_, history⟩ := history_first 1
  have moved : (processor FAR_FUTURE_EPOCH).History _ (later 2 [file, seven] (afterFirst 1)) :=
    history.elapsed ⟨2, [file, seven]⟩
  have before : (later 2 [file, seven] (afterFirst 1)).messageStorage.messagesMetadata.get? "828943" =
      some stored := by
    rw [later_messageStorage, get?_afterFirst]
  have world : (later 2 [file, seven] (afterFirst 1)).world = ⟨2, [file, seven]⟩ := later_world
  generalize later 2 [file, seven] (afterFirst 1) = s at moved before world
  have inside : seven ∈ s.world.folder := by
    rw [world]
    exact List.mem_cons_of_mem _ List.mem_cons_self
  obtain ⟨e, s', failed⟩ := load_seven moved inside
  have third := load_signed (s := later 3 [file] s') fun _ member => .inl (List.mem_singleton.mp member)
  have increasing : [(1 : Int), 2, 3].Pairwise (· < ·) := by decide
  obtain ⟨left, harmless⟩ := failed_load_harmless moved failed
  rw [world] at harmless
  obtain ⟨stats', t', run, -, same⟩ := harmless forkInfo ⟨3, [file]⟩ _ _ rfl increasing third
  have kept : s'.messageStorage.messagesMetadata.get? "828943" = some stored := by
    rw [left, before]
    rfl
  exact ⟨s, world, find_stored before, e, s', _, _, stats', t', failed, find_stored kept, third, run, same⟩

end HoleskyFixture

end ValidatorEjector
