/-
**What a run of the exit-log service has scanned.**

* `Ordered` — the invariant of a run: the scans are non-empty ranges in increasing order, the header ends
  where the last of them ends, and the cache is made of their logs, acknowledged or not.
* **`run_scans`** — what every call of every run does: it only appends, within the requested block.
* `NoGap`, `Skips` — every block since the first scan is in a scan; a call starts beyond the block after
  the header.
* **`noGap_iff`** — a run has no gap exactly when none of its calls skips.
* `run_gap` — a run with the default configuration that has one.
-/

import ValidatorEjector.ExitLogs.Service

namespace ValidatorEjector.ExitLogs

open Library Library.Program Library.Windows

variable {σ : Type} {e : ExitLogs σ}

/-! ### The order of the scans -/

/-- The entry is the log, or the log acknowledged. -/
def SameEvent (entry log : ValidatorsToEject) : Prop := entry = log ∨ entry = log.ack

/-- **The invariant of a run.** -/
structure Ordered (s : RunState σ) : Prop where
  increasing : (scans s).Pairwise fun a b => a.window.last < b.window.first
  bounds : ∀ scan ∈ scans s, 0 ≤ scan.window.first ∧ scan.window.first ≤ scan.window.last ∧
    scan.window.last ≤ s.header.endBlock
  endBlock : s.header.endBlock = lastOf (-1) ((scans s).map Scan.window)
  start : -1 ≤ s.header.endBlock
  cache : List.Forall₂ SameEvent s.cache ((scans s).flatMap Scan.logs)

theorem ordered_fresh (fetcher : σ) : Ordered (.fresh (fetcher, [])) where
  increasing := List.Pairwise.nil
  bounds := fun _ member => by cases member
  endBlock := rfl
  start := le_rfl
  cache := .nil

theorem sameEvent_ack {entries logs : List ValidatorsToEject}
    (same : List.Forall₂ SameEvent entries logs) (place : Nat) :
    List.Forall₂ SameEvent (entries.modify place ValidatorsToEject.ack) logs := by
  induction same generalizing place with
  | nil => rw [List.modify_nil]; exact .nil
  | @cons entry log _ _ here rest ih =>
    cases place with
    | zero =>
      rw [List.modify_zero_cons]
      refine .cons ?_ rest
      rcases here with rfl | rfl
      · exact .inr rfl
      · exact .inr rfl
    | succ place =>
      rw [List.modify_succ_cons]
      exact .cons here (ih place)

theorem ordered_ack {s : RunState σ} (ordered : Ordered s) (place : Nat) : Ordered (ackAt place s) where
  increasing := ordered.increasing
  bounds := ordered.bounds
  endBlock := ordered.endBlock
  start := ordered.start
  cache := sameEvent_ack ordered.cache place

/-- The end after some new ranges does not depend on the end before them. -/
theorem lastOf_new {b c : Int} {ws : List Window} (nonempty : ws ≠ []) : lastOf b ws = lastOf c ws := by
  cases ws with
  | nil => exact absurd rfl nonempty
  | cons w ws => rfl

/-- The call starts beyond the block after the header: something has been scanned, the preload window of
the requested block begins later, and the fetch of the first range resolves. -/
def Skips (e : ExitLogs σ) (s : RunState σ) (lastBlockNumber : Nat) : Prop :=
  scans s ≠ [] ∧ s.header.endBlock + 1 < lastBlockNumber - e.BLOCKS_PRELOAD ∧
    ∃ w ∈ (e.recorded.ranges s lastBlockNumber).head?, Resolves (e.fetch w) s.fetcher.1

/-- Something is scanned by a call exactly when the fetch of its first range resolves. -/
theorem skips_iff {s : RunState σ} {lastBlockNumber : Nat} {new : List Scan}
    (part : new.map Scan.window <+: e.recorded.ranges s lastBlockNumber)
    (complete : s.header.endBlock = lastBlockNumber → new = [])
    (none : s.header.endBlock ≠ lastBlockNumber → ∀ w ∈ (e.recorded.ranges s lastBlockNumber).head?,
      (new = [] ↔ ¬ Resolves (e.fetch w) s.fetcher.1)) :
    e.Skips s lastBlockNumber ↔ scans s ≠ [] ∧
      s.header.endBlock + 1 < lastBlockNumber - e.BLOCKS_PRELOAD ∧ new ≠ [] := by
  refine and_congr_right fun _ => and_congr_right fun beyond => ?_
  constructor
  · rintro ⟨w, head, resolved⟩ empty
    exact (none (by omega) w head).mp empty resolved
  · intro some
    cases new with
    | nil => exact absurd rfl some
    | cons scan rest =>
      have other : s.header.endBlock ≠ lastBlockNumber := fun same => some (complete same)
      obtain ⟨after, ranges⟩ := part
      have head : scan.window ∈ (e.recorded.ranges s lastBlockNumber).head? := by
        rw [← ranges]
        rfl
      exact ⟨scan.window, head, not_not.mp fun thrown => some ((none other _ head).mpr thrown)⟩

/-- **What a call scans** tiles the blocks from its start to where it stops, all above the header. -/
theorem getLogs_tiles (s : RunState σ) (lastBlockNumber : Nat) : ∃ new : List Scan,
    Extends new s (stateAfter (e.recorded.getLogs lastBlockNumber) s) ∧
      Tiles (e.recorded.blockFrom s lastBlockNumber)
        (lastOf (e.recorded.blockFrom s lastBlockNumber - 1) (new.map Scan.window))
        (new.map Scan.window) ∧
      (∀ scan ∈ new, s.header.endBlock < scan.window.first ∧
        scan.window.first ≤ scan.window.last ∧ scan.window.last ≤ lastBlockNumber ∧
        scan.window.last ≤ (stateAfter (e.recorded.getLogs lastBlockNumber) s).header.endBlock) ∧
      (e.Skips s lastBlockNumber ↔ scans s ≠ [] ∧
        s.header.endBlock + 1 < lastBlockNumber - e.BLOCKS_PRELOAD ∧ new ≠ []) := by
  obtain ⟨new, grown, part, complete, none⟩ := getLogs_spec (e := e) (s := s) lastBlockNumber
  have all := windows_tiles e.LOAD_LOGS_STEP (e.recorded.blockFrom s lastBlockNumber) lastBlockNumber
  have tiles := (all.take part).1
  refine ⟨new, grown, tiles, fun scan member => ?_, skips_iff part complete none⟩
  have inside : scan.window ∈ new.map Scan.window := List.mem_map_of_mem member
  obtain ⟨first, order, last⟩ := tiles.bounds scan.window inside
  have after : s.header.endBlock + 1 ≤ e.recorded.blockFrom s lastBlockNumber := le_max_left _ _
  refine ⟨by omega, order, (all.bounds scan.window (part.subset inside)).2.2, ?_⟩
  rw [grown.endBlock, lastOf_new (List.ne_nil_of_mem inside)]
  exact last

theorem endBlock_le_getLogs (s : RunState σ) (lastBlockNumber : Nat) :
    s.header.endBlock ≤ (stateAfter (e.recorded.getLogs lastBlockNumber) s).header.endBlock := by
  obtain ⟨new, grown, _, above, _⟩ := getLogs_tiles (e := e) s lastBlockNumber
  cases new with
  | nil => exact grown.endBlock.ge
  | cons scan _ =>
    obtain ⟨first, order, _, last⟩ := above scan List.mem_cons_self
    omega

theorem ordered_getLogs {s : RunState σ} (ordered : Ordered s) (lastBlockNumber : Nat) :
    Ordered (stateAfter (e.recorded.getLogs lastBlockNumber) s) := by
  obtain ⟨new, grown, tiles, above, _⟩ := getLogs_tiles (e := e) s lastBlockNumber
  have grows := endBlock_le_getLogs (e := e) s lastBlockNumber
  have nonneg := ordered.start
  refine ⟨?_, ?_, ?_, nonneg.trans grows, ?_⟩
  · rw [grown.scans, List.pairwise_append]
    refine ⟨ordered.increasing, List.pairwise_map.mp tiles.pairwise, fun old oldMember scan member => ?_⟩
    have old := (ordered.bounds old oldMember).2.2
    have new := (above scan member).1
    omega
  · intro scan member
    rw [grown.scans, List.mem_append] at member
    rcases member with old | new
    · obtain ⟨first, order, last⟩ := ordered.bounds scan old
      exact ⟨first, order, last.trans grows⟩
    · obtain ⟨first, order, _, last⟩ := above scan new
      exact ⟨by omega, order, last⟩
  · rw [grown.endBlock, grown.scans, List.map_append, lastOf_append, ← ordered.endBlock]
  · rw [grown.cache, grown.scans, List.flatMap_append]
    refine List.rel_append ordered.cache ?_
    exact List.forall₂_same.mpr fun _ _ => .inl rfl

theorem ordered_step {s : RunState σ} (ordered : Ordered s) : ∀ st : Step, Ordered (e.step s st)
  | .getLogs lastBlockNumber => ordered_getLogs ordered lastBlockNumber
  | .ack place => ordered_ack ordered place

theorem run_concat (fetcher : σ) (steps : List Step) (st : Step) :
    e.run fetcher (steps ++ [st]) = e.step (e.run fetcher steps) st := by
  unfold run
  rw [List.foldl_append]
  rfl

theorem ordered_run (fetcher : σ) (steps : List Step) : Ordered (e.run fetcher steps) := by
  induction steps using List.reverseRecOn with
  | nil => exact ordered_fresh fetcher
  | append_singleton steps st ih =>
    rw [run_concat]
    exact ordered_step ih st

/-- **What a run has scanned, and what its next step does.** The scans are non-empty ranges of
non-negative blocks in increasing order; the header ends where the last of them ends; the cache is made of
their logs. A call appends scans that stay within the requested block, with their logs, and leaves every
cached event as it is; an acknowledgement changes the one event. -/
theorem run_scans (e : ExitLogs σ) (fetcher : σ) (steps : List Step) :
    (scans (e.run fetcher steps)).Pairwise (fun a b => a.window.last < b.window.first) ∧
    (∀ scan ∈ scans (e.run fetcher steps),
      0 ≤ scan.window.first ∧ scan.window.first ≤ scan.window.last) ∧
    (scans (e.run fetcher steps) = [] → (e.run fetcher steps).header.endBlock = -1) ∧
    (∀ scan ∈ (scans (e.run fetcher steps)).getLast?,
      (e.run fetcher steps).header.endBlock = scan.window.last) ∧
    List.Forall₂ SameEvent (e.run fetcher steps).cache
      ((scans (e.run fetcher steps)).flatMap Scan.logs) ∧
    (∀ lastBlockNumber : Nat, ∃ new : List Scan,
      scans (e.run fetcher (steps ++ [.getLogs lastBlockNumber])) = scans (e.run fetcher steps) ++ new ∧
      (∀ scan ∈ new, scan.window.last ≤ lastBlockNumber) ∧
      (e.run fetcher (steps ++ [.getLogs lastBlockNumber])).cache
        = (e.run fetcher steps).cache ++ new.flatMap Scan.logs ∧
      (e.run fetcher steps).header.endBlock
        ≤ (e.run fetcher (steps ++ [.getLogs lastBlockNumber])).header.endBlock) ∧
    (∀ place, e.run fetcher (steps ++ [.ack place]) = ackAt place (e.run fetcher steps)) := by
  have ordered := ordered_run (e := e) fetcher steps
  refine ⟨ordered.increasing, fun scan member => ?_, fun none => ?_, fun scan last => ?_, ordered.cache,
    fun lastBlockNumber => ?_, fun place => run_concat fetcher steps (.ack place)⟩
  · exact ⟨(ordered.bounds scan member).1, (ordered.bounds scan member).2.1⟩
  · rw [ordered.endBlock, none]
    rfl
  · obtain ⟨before, same⟩ := List.getLast?_eq_some_iff.mp last
    rw [ordered.endBlock, same, List.map_append]
    exact lastOf_concat _ _ _
  · obtain ⟨new, grown, _, above, _⟩ := getLogs_tiles (e := e) (e.run fetcher steps) lastBlockNumber
    rw [run_concat]
    exact ⟨new, grown.scans, fun scan member => (above scan member).2.2.1, grown.cache,
      endBlock_le_getLogs _ _⟩

/-! ### Gaps -/

/-- Every block from the first one scanned up to the header is in a scan. -/
def NoGap (s : RunState σ) : Prop :=
  ∀ b, (∃ scan ∈ scans s, scan.window.first ≤ b) → b ≤ s.header.endBlock →
    ∃ scan ∈ scans s, scan.window.Contains b

/-- **A call leaves no gap exactly when there was none and it does not skip.** -/
theorem noGap_getLogs {s : RunState σ} (ordered : Ordered s) (lastBlockNumber : Nat) :
    NoGap (stateAfter (e.recorded.getLogs lastBlockNumber) s) ↔
      NoGap s ∧ ¬ e.Skips s lastBlockNumber := by
  obtain ⟨new, grown, tiles, above, skips⟩ := getLogs_tiles (e := e) s lastBlockNumber
  have grows := endBlock_le_getLogs (e := e) s lastBlockNumber
  have start : e.recorded.blockFrom s lastBlockNumber
      = max (s.header.endBlock + 1) (lastBlockNumber - e.BLOCKS_PRELOAD) := rfl
  have oldOrNew : ∀ scan, scan ∈ scans (stateAfter (e.recorded.getLogs lastBlockNumber) s) ↔
      scan ∈ scans s ∨ scan ∈ new := by
    intro scan
    rw [grown.scans, List.mem_append]
  rw [skips]
  constructor
  · intro free
    refine ⟨fun b ⟨old, oldMember, before⟩ below => ?_, fun ⟨scanned, beyond, nonempty⟩ => ?_⟩
    · -- a block up to the old header is in no new scan
      obtain ⟨scan, member, inside⟩ := free b ⟨old, (oldOrNew old).mpr (.inl oldMember), before⟩
        (below.trans grows)
      rcases (oldOrNew scan).mp member with member | member
      · exact ⟨scan, member, inside⟩
      · have := (above scan member).1
        have := inside.1
        omega
    · -- the block after the old header is in no scan at all
      obtain ⟨old, oldMember⟩ := List.exists_mem_of_ne_nil _ scanned
      obtain ⟨first, firstMember⟩ := List.exists_mem_of_ne_nil _ nonempty
      have oldBounds := ordered.bounds old oldMember
      have firstBounds := above first firstMember
      obtain ⟨scan, member, inside⟩ := free (s.header.endBlock + 1)
        ⟨old, (oldOrNew old).mpr (.inl oldMember), by omega⟩ (by omega)
      rcases (oldOrNew scan).mp member with member | member
      · have := (ordered.bounds scan member).2.2
        have := inside.2
        omega
      · have := (tiles.bounds scan.window (List.mem_map_of_mem member)).1
        have := inside.1
        omega
  · rintro ⟨free, noSkip⟩ b ⟨old, oldMember, before⟩ below
    by_cases inOld : b ≤ s.header.endBlock
    · rcases (oldOrNew old).mp oldMember with member | member
      · obtain ⟨scan, member, inside⟩ := free b ⟨old, member, before⟩ inOld
        exact ⟨scan, (oldOrNew scan).mpr (.inl member), inside⟩
      · have := (above old member).1
        omega
    · -- a block above the old header: something was scanned, from the block after it on
      have nonempty : new ≠ [] := by
        rintro rfl
        rw [grown.endBlock] at below
        exact inOld below
      have from_start : e.recorded.blockFrom s lastBlockNumber ≤ b := by
        rcases (oldOrNew old).mp oldMember with member | member
        · have := List.ne_nil_of_mem member
          by_contra beyond
          exact noSkip ⟨this, by omega, nonempty⟩
        · exact ((tiles.bounds old.window (List.mem_map_of_mem member)).1).trans before
      rw [grown.endBlock, lastOf_new (c := e.recorded.blockFrom s lastBlockNumber - 1)
        (fun none => nonempty (List.map_eq_nil_iff.mp none))] at below
      obtain ⟨_, inMap, inside⟩ := tiles.exists_window from_start below
      obtain ⟨scan, member, rfl⟩ := List.mem_map.mp inMap
      exact ⟨scan, (oldOrNew scan).mpr (.inr member), inside⟩

theorem noGap_ack {s : RunState σ} (place : Nat) : NoGap (ackAt place s) ↔ NoGap s := Iff.rfl

/-- **When a run has no gap**: no call of it, in the state the steps before it leave, skips. -/
theorem noGap_iff (e : ExitLogs σ) (fetcher : σ) (steps : List Step) :
    NoGap (e.run fetcher steps) ↔
      ∀ before lastBlockNumber, before ++ [.getLogs lastBlockNumber] <+: steps →
        ¬ e.Skips (e.run fetcher before) lastBlockNumber := by
  induction steps using List.reverseRecOn with
  | nil =>
    refine ⟨fun _ before lastBlockNumber part => ?_, fun _ b ⟨_, member, _⟩ => by cases member⟩
    exact absurd (List.prefix_nil.mp part) (List.append_ne_nil_of_right_ne_nil _ (List.cons_ne_nil _ _))
  | append_singleton steps st ih =>
    rw [run_concat]
    have split : (∀ before lastBlockNumber, before ++ [.getLogs lastBlockNumber] <+: steps ++ [st] →
          ¬ e.Skips (e.run fetcher before) lastBlockNumber) ↔ NoGap (e.run fetcher steps) ∧
        ∀ lastBlockNumber, st = .getLogs lastBlockNumber →
          ¬ e.Skips (e.run fetcher steps) lastBlockNumber := by
      rw [ih]
      constructor
      · intro none
        refine ⟨fun before last part => none before last (part.trans (List.prefix_append _ _)), ?_⟩
        rintro last rfl
        exact none steps last List.prefix_rfl
      · rintro ⟨earlier, here⟩ before last part
        rcases List.prefix_concat_iff.mp part with same | part
        · obtain ⟨rfl, call⟩ := List.append_inj' same rfl
          exact here last (List.cons.inj call).1.symm
        · exact earlier before last part
    rw [split]
    cases st with
    | getLogs lastBlockNumber =>
      show NoGap (stateAfter _ _) ↔ _
      rw [noGap_getLogs (ordered_run fetcher steps)]
      refine and_congr_right fun _ => ⟨?_, fun none => none lastBlockNumber rfl⟩
      rintro noSkip _ ⟨⟩
      exact noSkip
    | ack place =>
      refine Iff.trans (noGap_ack place) ⟨fun free => ⟨free, ?_⟩, And.left⟩
      rintro _ ⟨⟩

/-- A service with the default configuration, on a chain without exit requests. -/
def quietService : ExitLogs Unit where
  fetch _ := pure []
  BLOCKS_PRELOAD := 50000
  LOAD_LOGS_STEP := 10000

/-- **A gap.** After a first call at block `1000000` and one at block `1100000`, block `1020000` lies
between the first scanned block and the header, and in no scan. -/
theorem run_gap : ¬ NoGap (quietService.run () [.getLogs 1000000, .getLogs 1100000]) := by
  intro free
  have inside := free 1020000
  revert inside
  decide +kernel

end ValidatorEjector.ExitLogs
