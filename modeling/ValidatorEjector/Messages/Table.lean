/-
**The storage is a table of stamped messages.**

The two maps of the storage always have the same keys, and every operation on them is the operation of the
abstract table that its name says.

* `Aligned` — the same keys; `aligned_*` — every operation keeps it.
* `table` — the storage as a table; `table_*` — what every operation is there.
* `removals` — both prunes remove a list of indices.
* `size_removeOldMessages`, `updateMessages_counts` — the counts are exact; `overwrites` — what counts as
  an update.
-/

import ValidatorEjector.Library.Stamped
import ValidatorEjector.Messages.Storage

namespace ValidatorEjector

open Library

namespace MessageStorage

/-- The two maps have the same keys. -/
def Aligned (s : MessageStorage) : Prop := s.messagesLastUpdate.keys = s.messagesMetadata.keys

/-- The storage as a table. -/
def table (s : MessageStorage) : Stamped String ExitMessageWithMetadata where
  clock := s.LAST_UPDATE
  cell i := (s.messagesMetadata.get? i).map fun m => (m, (s.messagesLastUpdate.get? i).getD 0)

section Table

variable {s : MessageStorage} {m : ExitMessageWithMetadata} {i j forkVersion fileChecksum : String}
  {now : Int}

@[simp] theorem value?_table : s.table.value? i = s.messagesMetadata.get? i := by
  unfold Stamped.value? table
  rw [Option.map_map]
  exact Option.map_id'

theorem stores_iff_value? : s.Stores m ↔ s.table.value? m.index = some m := by
  rw [value?_table]
  rfl

/-! ### Writing -/

@[simp] theorem table_startUpdateCycle : (s.startUpdateCycle now).table = s.table.tick now := rfl

theorem table_setLastUpdate : (s.setLastUpdate i s.LAST_UPDATE).table = s.table.touch i := by
  refine Stamped.ext rfl ?_
  funext j
  rw [Stamped.cell_touch]
  show (s.messagesMetadata.get? j).map (fun m => (m, ((s.messagesLastUpdate.set i _).get? j).getD 0)) = _
  rw [OrderedMap.get?_set]
  unfold table
  rw [Option.map_map]
  congr 1
  funext m
  by_cases same : j = i
  · simp [same]
  · simp [same]

theorem table_addOrUpdateMessage : (s.addOrUpdateMessage m).2.table = s.table.put m.index m := by
  refine Stamped.ext rfl ?_
  funext j
  rw [Stamped.cell_put]
  show ((s.messagesMetadata.set m.index m).get? j).map
    (fun u => (u, ((s.messagesLastUpdate.set m.index s.LAST_UPDATE).get? j).getD 0)) = _
  rw [OrderedMap.get?_set, OrderedMap.get?_set]
  by_cases same : j = m.index
  · simp [same, table]
  · simp [same, table]

theorem table_updateMessages (ms : List ExitMessageWithMetadata) :
    (s.updateMessages ms).2.table =
      (ms.map fun m => (m.index, m)).foldl (fun t e => t.put e.1 e.2) s.table := by
  show (addAll ms s).2.table = _
  induction ms generalizing s with
  | nil => rfl
  | cons m ms ih =>
    rw [List.map_cons, List.foldl_cons, ← table_addOrUpdateMessage, ← ih]
    rfl

/-- The first stored message with a checksum. -/
def findByChecksum (s : MessageStorage) (fileChecksum : String) : Option ExitMessageWithMetadata :=
  s.messagesMetadata.values.find? fun m => m.meta.fileChecksum = fileChecksum

theorem findByChecksum_some (found : s.findByChecksum fileChecksum = some m) :
    s.Stores m ∧ m.meta.fileChecksum = fileChecksum := by
  have same := List.find?_some (p := fun m : ExitMessageWithMetadata => m.meta.fileChecksum = fileChecksum)
    found
  exact ⟨mem_values.mp (List.mem_of_find?_eq_some found), of_decide_eq_true same⟩

theorem findByChecksum_none : s.findByChecksum fileChecksum = none ↔
    ∀ m, s.Stores m → m.meta.fileChecksum ≠ fileChecksum := by
  unfold findByChecksum
  rw [List.find?_eq_none]
  simp only [mem_values, decide_eq_true_eq, ne_eq]

theorem touchMessageWithChecksum_eq : s.touchMessageWithChecksum fileChecksum =
    match s.findByChecksum fileChecksum with
    | some m => (true, s.setLastUpdate m.index s.LAST_UPDATE)
    | none => (false, s) := rfl

theorem table_touchMessageWithChecksum : (s.touchMessageWithChecksum fileChecksum).2.table =
    match s.findByChecksum fileChecksum with
    | some m => s.table.touch m.index
    | none => s.table := by
  rw [touchMessageWithChecksum_eq]
  cases s.findByChecksum fileChecksum with
  | none => rfl
  | some m => exact table_setLastUpdate

/-! ### Removing -/

theorem table_removeMessage : (s.removeMessage i).table = s.table.erase i := by
  refine Stamped.ext rfl ?_
  funext j
  rw [Stamped.cell_erase]
  show ((s.messagesMetadata.delete i).get? j).map
    (fun m => (m, ((s.messagesLastUpdate.delete i).get? j).getD 0)) = _
  rw [OrderedMap.get?_delete, OrderedMap.get?_delete]
  by_cases same : j = i
  · simp [same]
  · simp [same, table]

/-- The messages of several validators are removed. -/
def removals (indices : List String) (s : MessageStorage) : MessageStorage :=
  indices.foldl (fun s i => s.removeMessage i) s

/-- Both maps lose the same keys, and nothing else changes. -/
theorem removals_entries : ∀ (indices : List String) (s : MessageStorage),
    (s.removals indices).LAST_UPDATE = s.LAST_UPDATE ∧
    (s.removals indices).messagesLastUpdate.entries =
      s.messagesLastUpdate.entries.filter (fun e => e.1 ∉ indices) ∧
    (s.removals indices).messagesMetadata.entries =
      s.messagesMetadata.entries.filter (fun e => e.1 ∉ indices)
  | [], s => by simp [removals]
  | i :: indices, s => by
    obtain ⟨clock, stamps, messages⟩ := removals_entries indices (s.removeMessage i)
    refine ⟨clock, ?_, ?_⟩
    · show ((s.removeMessage i).removals indices).messagesLastUpdate.entries = _
      rw [stamps]
      show (s.messagesLastUpdate.entries.filter _).filter _ = _
      rw [List.filter_filter]
      congr 1
      funext e
      simp [Bool.and_comm]
    · show ((s.removeMessage i).removals indices).messagesMetadata.entries = _
      rw [messages]
      show (s.messagesMetadata.entries.filter _).filter _ = _
      rw [List.filter_filter]
      congr 1
      funext e
      simp [Bool.and_comm]

theorem cell_removals : ∀ (indices : List String) (s : MessageStorage),
    (s.removals indices).table.cell j = if j ∈ indices then none else s.table.cell j
  | [], _ => by simp [removals]
  | i :: indices, s => by
    show ((s.removeMessage i).removals indices).table.cell j = _
    rw [cell_removals indices, table_removeMessage, Stamped.cell_erase]
    by_cases same : j = i
    · simp [same]
    · simp [same]

theorem removeOldForkVersionMessages_eq : s.removeOldForkVersionMessages forkVersion =
    s.removals ((s.messagesMetadata.entries.filter fun e => e.2.meta.forkVersion ≠ forkVersion).map
      Prod.fst) := by
  unfold removeOldForkVersionMessages removals
  rw [List.foldl_map, List.foldl_filter]
  congr 1
  funext s e
  by_cases same : e.2.meta.forkVersion = forkVersion
  · simp [same]
  · simp [same]

/-- The entries the running cycle has not seen. -/
def oldEntries (s : MessageStorage) : List (String × Int) :=
  s.messagesLastUpdate.entries.filter fun e => e.2 < s.LAST_UPDATE

theorem removeOldMessages_eq :
    s.removeOldMessages = (s.oldEntries.length, s.removals (s.oldEntries.map Prod.fst)) := by
  have loop : ∀ (es : List (String × Int)) (n : Nat) (u : MessageStorage),
      u.LAST_UPDATE = s.LAST_UPDATE → es.foldl removeTurn (n, u) =
        (n + (es.filter fun e => e.2 < s.LAST_UPDATE).length,
          u.removals ((es.filter fun e => e.2 < s.LAST_UPDATE).map Prod.fst)) := by
    intro es
    induction es with
    | nil => exact fun _ _ _ => rfl
    | cons e es ih =>
      intro n u clock
      rw [List.foldl_cons]
      by_cases old : e.2 < s.LAST_UPDATE
      · have turn : removeTurn (n, u) e = (n + 1, u.removeMessage e.1) :=
          if_pos (show e.2 < u.LAST_UPDATE by rw [clock]; exact old)
        rw [turn, ih (n + 1) (u.removeMessage e.1) clock, List.filter_cons_of_pos (by simpa using old),
          List.length_cons, Nat.add_right_comm]
        rfl
      · have turn : removeTurn (n, u) e = (n, u) :=
          if_neg (show ¬ e.2 < u.LAST_UPDATE by rw [clock]; exact old)
        rw [turn, ih _ _ clock, List.filter_cons_of_neg (by simpa using old)]
  have run := loop s.messagesLastUpdate.entries 0 s rfl
  rw [Nat.zero_add] at run
  exact run

/-- Exactly the messages of the fork are left, in their order. -/
theorem removeOldForkVersionMessages_entries :
    (s.removeOldForkVersionMessages forkVersion).messagesMetadata.entries =
      s.messagesMetadata.entries.filter fun e => e.2.meta.forkVersion = forkVersion := by
  rw [removeOldForkVersionMessages_eq, (removals_entries _ s).2.2]
  refine List.filter_congr ?_
  rintro ⟨i, m⟩ member
  have only : ∀ u, (i, u) ∈ s.messagesMetadata.entries ↔ u = m := by
    intro u
    rw [← OrderedMap.get?_eq_some, OrderedMap.get?_eq_some.mpr member, Option.some_inj, eq_comm]
  simp [only]

theorem table_removeOldForkVersionMessages : (s.removeOldForkVersionMessages forkVersion).table =
    s.table.keep fun m => m.meta.forkVersion = forkVersion := by
  rw [removeOldForkVersionMessages_eq]
  refine Stamped.ext (removals_entries _ s).1 ?_
  funext j
  rw [cell_removals]
  show _ = (s.table.cell j).filter _
  unfold table
  cases found : s.messagesMetadata.get? j with
  | none => simp [found]
  | some m =>
    have only : ∀ u, (j, u) ∈ s.messagesMetadata.entries ↔ u = m := by
      intro u
      rw [← OrderedMap.get?_eq_some, found, Option.some_inj, eq_comm]
    by_cases same : m.meta.forkVersion = forkVersion
    · simp [found, only, same, Option.filter]
    · simp [found, only, same, Option.filter]

/-- A message has its stamp, and the other way round. -/
theorem Aligned.stamp (aligned : s.Aligned) :
    (s.messagesLastUpdate.get? j).isSome = (s.messagesMetadata.get? j).isSome := by
  rw [Bool.eq_iff_iff, Option.isSome_iff_ne_none, Option.isSome_iff_ne_none, Ne, Ne,
    OrderedMap.get?_eq_none, OrderedMap.get?_eq_none, aligned]

theorem table_removeOldMessages (aligned : s.Aligned) : s.removeOldMessages.2.table = s.table.sweep := by
  rw [removeOldMessages_eq]
  refine Stamped.ext (removals_entries _ s).1 ?_
  funext j
  rw [cell_removals]
  show _ = (s.table.cell j).filter _
  have both := aligned.stamp (j := j)
  unfold table oldEntries
  cases found : s.messagesMetadata.get? j with
  | none => simp [found]
  | some m =>
    rw [found] at both
    obtain ⟨stamp, stamped⟩ := Option.isSome_iff_exists.mp both
    have only : ∀ t, (j, t) ∈ s.messagesLastUpdate.entries ↔ t = stamp := by
      intro t
      rw [← OrderedMap.get?_eq_some, stamped, Option.some_inj, eq_comm]
    by_cases old : stamp < s.LAST_UPDATE
    · have late : ¬ s.LAST_UPDATE ≤ stamp := Int.not_le.mpr old
      simp [found, only, stamped, old, late, Option.filter]
    · have recent : s.LAST_UPDATE ≤ stamp := Int.not_lt.mp old
      simp [found, only, stamped, old, recent, Option.filter]

/-! ### The same keys -/

@[simp] theorem aligned_fresh : fresh.Aligned := rfl

theorem aligned_startUpdateCycle (aligned : s.Aligned) : (s.startUpdateCycle now).Aligned := aligned

theorem aligned_addOrUpdateMessage (aligned : s.Aligned) : (s.addOrUpdateMessage m).2.Aligned := by
  show (s.messagesLastUpdate.set _ _).keys = (s.messagesMetadata.set _ _).keys
  rw [OrderedMap.keys_set, OrderedMap.keys_set, aligned]

theorem aligned_updateMessages {ms : List ExitMessageWithMetadata} (aligned : s.Aligned) :
    (s.updateMessages ms).2.Aligned := by
  show (addAll ms s).2.Aligned
  induction ms generalizing s with
  | nil => exact aligned
  | cons m ms ih => exact ih (aligned_addOrUpdateMessage aligned)

theorem aligned_touchMessageWithChecksum (aligned : s.Aligned) :
    (s.touchMessageWithChecksum fileChecksum).2.Aligned := by
  rw [touchMessageWithChecksum_eq]
  cases found : s.findByChecksum fileChecksum with
  | none => exact aligned
  | some m =>
    show (s.messagesLastUpdate.set _ _).keys = s.messagesMetadata.keys
    have inside : m.index ∈ s.messagesMetadata.keys :=
      List.mem_map_of_mem (f := Prod.fst) (stores_iff.mp (findByChecksum_some found).1)
    rw [OrderedMap.keys_set, aligned, if_pos inside]

theorem aligned_removals (aligned : s.Aligned) (indices : List String) :
    (s.removals indices).Aligned := by
  obtain ⟨_, stamps, messages⟩ := removals_entries indices s
  have keys {V : Type} (entries : List (String × V)) :
      (entries.filter fun e => e.1 ∉ indices).map Prod.fst =
        (entries.map Prod.fst).filter (· ∉ indices) := by
    rw [List.filter_map]
    rfl
  show (s.removals indices).messagesLastUpdate.entries.map Prod.fst =
    (s.removals indices).messagesMetadata.entries.map Prod.fst
  rw [stamps, messages, keys, keys]
  exact congrArg _ aligned

theorem aligned_removeOldForkVersionMessages (aligned : s.Aligned) :
    (s.removeOldForkVersionMessages forkVersion).Aligned := by
  rw [removeOldForkVersionMessages_eq]
  exact aligned_removals aligned _

theorem aligned_removeOldMessages (aligned : s.Aligned) : s.removeOldMessages.2.Aligned := by
  rw [removeOldMessages_eq]
  exact aligned_removals aligned _

/-! ### The counts -/

/-- Every removed message is counted, and no other. -/
theorem size_removeOldMessages (aligned : s.Aligned) :
    s.removeOldMessages.2.size + s.removeOldMessages.1 = s.size := by
  have old : ∀ e ∈ s.messagesLastUpdate.entries,
      e.1 ∈ s.oldEntries.map Prod.fst ↔ e.2 < s.LAST_UPDATE := by
    rintro ⟨i, stamp⟩ member
    have only : ∀ t, (i, t) ∈ s.messagesLastUpdate.entries ↔ t = stamp := by
      intro t
      rw [← OrderedMap.get?_eq_some, OrderedMap.get?_eq_some.mpr member, Option.some_inj, eq_comm]
    simp [oldEntries, only]
  have kept : s.removeOldMessages.2.Aligned := aligned_removeOldMessages aligned
  have sizes {u : MessageStorage} (same : u.Aligned) :
      u.size = u.messagesLastUpdate.entries.length := by
    have keys := congrArg List.length same
    unfold OrderedMap.keys at keys
    rw [List.length_map, List.length_map] at keys
    exact keys.symm
  have left : s.removeOldMessages.2.messagesLastUpdate.entries =
      s.messagesLastUpdate.entries.filter fun e => !decide (e.2 < s.LAST_UPDATE) := by
    rw [removeOldMessages_eq]
    show (s.removals _).messagesLastUpdate.entries = _
    rw [(removals_entries _ s).2.1]
    refine List.filter_congr fun e member => ?_
    rw [decide_not, decide_eq_decide.mpr (old e member)]
  have count : s.removeOldMessages.1 = s.oldEntries.length := by rw [removeOldMessages_eq]
  rw [sizes kept, sizes aligned, left, count, Nat.add_comm]
  exact (List.length_eq_length_filter_add _).symm

theorem size_addOrUpdateMessage : (s.addOrUpdateMessage m).2.size =
    s.size + if m.index ∈ s.messagesMetadata.keys then 0 else 1 := by
  have sizes (u : OrderedMap String ExitMessageWithMetadata) : u.size = u.keys.length :=
    (List.length_map _).symm
  show (s.messagesMetadata.set m.index m).size = s.messagesMetadata.size + _
  rw [sizes, sizes, OrderedMap.keys_set]
  by_cases inside : m.index ∈ s.messagesMetadata.keys
  · rw [if_pos inside, if_pos inside]
    rfl
  · rw [if_neg inside, if_neg inside, List.length_append]
    rfl

theorem addOrUpdateMessage_fst : (s.addOrUpdateMessage m).1 =
    if m.index ∈ s.messagesMetadata.keys then Result.UPDATED else Result.ADDED := by
  show (if (s.messagesMetadata.get? m.index).isSome then _ else _) = _
  cases found : s.messagesMetadata.get? m.index with
  | none => simp [OrderedMap.get?_eq_none.mp found]
  | some u =>
    have inside : m.index ∈ s.messagesMetadata.keys := by
      by_contra absent
      rw [OrderedMap.get?_eq_none.mpr absent] at found
      cases found
    simp [inside]

/-- The messages of a list whose validator is among the given ones, or has a message earlier in the
list. -/
def overwrites (stored : List String) : List ExitMessageWithMetadata → Nat
  | [] => 0
  | m :: ms => (if m.index ∈ stored then 1 else 0) + overwrites (m.index :: stored) ms

theorem overwrites_congr : ∀ {ms : List ExitMessageWithMetadata} {stored stored' : List String},
    (∀ i, i ∈ stored ↔ i ∈ stored') → overwrites stored ms = overwrites stored' ms
  | [], _, _, _ => rfl
  | m :: ms, stored, stored', same => by
    have rest : overwrites (m.index :: stored) ms = overwrites (m.index :: stored') ms :=
      overwrites_congr fun i => by rw [List.mem_cons, List.mem_cons, same]
    simp only [overwrites, same, rest]

/-- **The counts of an update**: the overwritten messages, and how much the storage has grown. -/
theorem updateMessages_counts (ms : List ExitMessageWithMetadata) (s : MessageStorage) :
    (s.updateMessages ms).1.updated = overwrites s.messagesMetadata.keys ms ∧
    (s.updateMessages ms).1.updated + (s.updateMessages ms).1.added = ms.length ∧
    (s.updateMessages ms).2.size = s.size + (s.updateMessages ms).1.added := by
  show (addAll ms s).1.count _ = _ ∧ (addAll ms s).1.count _ + (addAll ms s).1.count _ = _ ∧
    (addAll ms s).2.size = s.size + (addAll ms s).1.count _
  induction ms generalizing s with
  | nil => exact ⟨rfl, rfl, rfl⟩
  | cons m ms ih =>
    obtain ⟨updated, total, size⟩ := ih (s.addOrUpdateMessage m).2
    have first : (addAll (m :: ms) s).1
        = (s.addOrUpdateMessage m).1 :: (addAll ms (s.addOrUpdateMessage m).2).1 := rfl
    have last : (addAll (m :: ms) s).2 = (addAll ms (s.addOrUpdateMessage m).2).2 := rfl
    have keys : overwrites (s.addOrUpdateMessage m).2.messagesMetadata.keys ms =
        overwrites (m.index :: s.messagesMetadata.keys) ms := by
      refine overwrites_congr fun i => ?_
      show i ∈ (s.messagesMetadata.set m.index m).keys ↔ _
      rw [OrderedMap.keys_set, List.mem_cons]
      by_cases inside : m.index ∈ s.messagesMetadata.keys
      · rw [if_pos inside]
        exact ⟨.inr, fun here => here.elim (fun same => by rw [same]; exact inside) id⟩
      · rw [if_neg inside, List.mem_append, List.mem_singleton, or_comm]
    rw [first, last, size, size_addOrUpdateMessage, addOrUpdateMessage_fst, overwrites, ← keys,
      ← updated, List.length_cons, ← total]
    by_cases inside : m.index ∈ s.messagesMetadata.keys
    · simp [inside]
      omega
    · simp [inside]
      omega

end Table

end MessageStorage

end ValidatorEjector
