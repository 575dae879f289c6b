/-
**Dencun is remembered.**

`isDencunHappened` sets a flag that nothing resets, not even a reload that fails afterwards. So the domain that
signatures are checked over changes at most once in a run, whatever the consensus nodes answer later.

* `Occurrence.isDencun?`, `dencuns` — what an entry, and a journal, says of Dencun.
* `ForkVersionResolver.Knows` — the Capella versions of a configuration.
* `Latched` — the invariant; `load_latched`, `reload_latched`, `handleJob_latched` — the parts of a job keep it.
* **`run_latched`** — it holds of every run.
-/

import ValidatorEjector.Job.ExitSafety
import ValidatorEjector.Job.Quiet

namespace ValidatorEjector

open Js Library Library.Program

/-- What an entry says of Dencun. -/
def Occurrence.isDencun? : Occurrence → Option Bool
  | .verified v => some v.isDencun
  | .reloaded forkInfo => some forkInfo.isDencun
  | _ => none

/-- What a journal says of Dencun, in order. -/
def dencuns (journal : List Occurrence) : List Bool := journal.filterMap Occurrence.isDencun?

/-- The version is configured, or that of some network of the table, and is hexadecimal. -/
def ForkVersionResolver.Knows (f : ForkVersionResolver) (capellaVersion : String) : Prop :=
  (∃ chainId, f.CAPELLA_FORK_VERSION.or (CAPELLA_FORK_VERSIONS chainId) = some capellaVersion) ∧
    "0x".toList <+: capellaVersion.toList

section Dencun

variable {σ : Type}

theorem getCapellaForkVersion_knows (f : ForkVersionResolver) (cl : ConsensusApi σ) :
    Triple (fun _ => True) (f.getCapellaForkVersion cl) (fun version _ => f.Knows version) fun _ => True := by
  have chainId : Triple (fun _ => True) cl.chainId (fun _ _ => True) fun _ => True := by
    intro s _
    cases cl.chainId s <;> trivial
  refine Triple.bind chainId fun chainId => ?_
  cases found : f.CAPELLA_FORK_VERSION.or (CAPELLA_FORK_VERSIONS chainId) with
  | none => exact fun _ _ => trivial
  | some version =>
    dsimp only
    by_cases empty : version = ""
    · rw [if_pos empty]
      exact fun _ _ => trivial
    · rw [if_neg empty]
      by_cases hexadecimal : "0x".toList <+: version.toList
      · rw [if_neg (not_not.mpr hexadecimal)]
        exact fun _ _ => ⟨⟨chainId, found⟩, hexadecimal⟩
      · rw [if_pos hexadecimal]
        exact fun _ _ => trivial

namespace MessagesProcessor

/-- **Dencun is remembered**: no entry takes back what an earlier one says, and all that was said is in the
flag. -/
structure Latched (p : MessagesProcessor σ) (s : MessagesState σ) : Prop where
  ordered : (dencuns s.journal).Pairwise (· ≤ ·)
  last : ∀ isDencun ∈ dencuns s.journal, isDencun ≤ s.isDencunActivated
  forced : p.forkVersionResolver.FORCE_DENCUN_FORK_MODE = true → ∀ isDencun ∈ dencuns s.journal, isDencun = true
  /-- A reload whose versions show Dencun is under it. -/
  shown : ∀ forkInfo, .reloaded forkInfo ∈ s.journal →
    p.forkVersionResolver.isActivated forkInfo.currentVersion forkInfo.capellaVersion = true →
      forkInfo.isDencun = true
  /-- Under Dencun a signature that is valid is over one domain, of a version of the configuration. -/
  domain : ∀ v, .verified v ∈ s.journal → p.forkVersionResolver.Knows v.capellaForkVersion ∧
    (v.isDencun = true → ∀ key m, p.isValidSignature v.toSigningContext key m = .ok true →
      p.SignedOver v v.capellaForkVersion key m)

variable {p : MessagesProcessor σ} {s s' : MessagesState σ}

/-- The invariant is about the flag and the journal only. -/
theorem Latched.frame (start : p.Latched s) (flag : s'.isDencunActivated = s.isDencunActivated)
    (journal : s'.journal = s.journal) : p.Latched s' := by
  obtain ⟨ordered, last, forced, shown, domain⟩ := start
  rw [← journal] at ordered last forced shown domain
  exact ⟨ordered, flag ▸ last, forced, shown, domain⟩

/-- An entry that says what the flag does. -/
theorem Latched.note (start : p.Latched s) {occurrence : Occurrence}
    (agrees : ∀ isDencun, occurrence.isDencun? = some isDencun → isDencun = s.isDencunActivated ∧
      (p.forkVersionResolver.FORCE_DENCUN_FORK_MODE = true → isDencun = true))
    (shown : ∀ forkInfo, occurrence = .reloaded forkInfo →
      p.forkVersionResolver.isActivated forkInfo.currentVersion forkInfo.capellaVersion = true →
      forkInfo.isDencun = true)
    (domain : ∀ v, occurrence = .verified v → p.forkVersionResolver.Knows v.capellaForkVersion) :
    p.Latched { s with journal := s.journal ++ [occurrence] } := by
  have grown : dencuns (s.journal ++ [occurrence]) = dencuns s.journal ++ occurrence.isDencun?.toList := by
    unfold dencuns
    rw [List.filterMap_append]
    cases said : occurrence.isDencun? <;> simp [said]
  have here {isDencun : Bool} (inside : isDencun ∈ occurrence.isDencun?.toList) :=
    agrees isDencun (by simpa using inside)
  refine ⟨?_, fun isDencun inside => ?_, fun force isDencun inside => ?_, fun forkInfo inside => ?_,
    fun v inside => ?_⟩
  · show (dencuns (s.journal ++ [occurrence])).Pairwise (· ≤ ·)
    rw [grown, List.pairwise_append]
    refine ⟨start.ordered, ?_, fun earlier inside isDencun new => ?_⟩
    · cases occurrence.isDencun? <;> simp
    · rw [(here new).1]
      exact start.last earlier inside
  · replace inside : isDencun ∈ dencuns (s.journal ++ [occurrence]) := inside
    rw [grown] at inside
    rcases List.mem_append.mp inside with old | new
    · exact start.last isDencun old
    · exact le_of_eq (here new).1
  · replace inside : isDencun ∈ dencuns (s.journal ++ [occurrence]) := inside
    rw [grown] at inside
    rcases List.mem_append.mp inside with old | new
    · exact start.forced force isDencun old
    · exact (here new).2 force
  · rcases List.mem_append.mp inside with old | new
    · exact start.shown forkInfo old
    · exact shown forkInfo (List.mem_singleton.mp new).symm
  · rcases List.mem_append.mp inside with old | new
    · exact start.domain v old
    · refine ⟨domain v (List.mem_singleton.mp new).symm, fun isDencun key m valid => ?_⟩
      obtain ⟨fork, inForce, signed⟩ := signedOver_of_valid valid
      unfold Verification.forks at inForce
      rw [isDencun, if_pos rfl, List.mem_singleton] at inForce
      rw [← inForce]
      exact signed

/-- An entry that says nothing. -/
theorem Latched.note_silent (start : p.Latched s) {occurrence : Occurrence}
    (silent : occurrence.isDencun? = none) :
    p.Latched { s with journal := s.journal ++ [occurrence] } := by
  refine start.note (fun isDencun said => ?_) (fun forkInfo same => ?_) fun v same => ?_
  · rw [silent] at said
    cases said
  · rw [same] at silent
    cases silent
  · rw [same] at silent
    cases silent

theorem onWorld_latched {α : Type} (x : EStateM Failure σ α) : Preserves p.Latched (onWorld x) := by
  intro s start
  unfold onWorld onPart
  cases x s.world with
  | ok _ _ => exact start.frame rfl rfl
  | error _ _ => exact start.frame rfl rfl

/-! ### Reloads -/

/-- What is resolved of the forks agrees with the flag. -/
structure Resolved (p : MessagesProcessor σ) (forkInfo : ForkVersionInfo) : Prop where
  known : p.forkVersionResolver.Knows forkInfo.capellaVersion
  shown : p.forkVersionResolver.isActivated forkInfo.currentVersion forkInfo.capellaVersion = true →
    forkInfo.isDencun = true

theorem Resolved.forced {forkInfo : ForkVersionInfo} (resolved : p.Resolved forkInfo)
    (force : p.forkVersionResolver.FORCE_DENCUN_FORK_MODE = true) : forkInfo.isDencun = true := by
  refine resolved.shown ?_
  unfold ForkVersionResolver.isActivated
  rw [force, Bool.or_true]

/-- The invariant, with the flag as it was resolved. -/
def LatchedAt (p : MessagesProcessor σ) (isDencun : Bool) (s : MessagesState σ) : Prop :=
  p.Latched s ∧ s.isDencunActivated = isDencun

theorem getForkVersionInfo_latched : Triple p.Latched p.getForkVersionInfo
    (fun forkInfo s => p.LatchedAt forkInfo.isDencun s ∧ p.Resolved forkInfo) p.Latched := by
  have capella : Triple p.Latched (onWorld (p.forkVersionResolver.getCapellaForkVersion p.outside.cl))
      (fun version s => p.Latched s ∧ p.forkVersionResolver.Knows version) p.Latched := by
    intro s start
    have known := getCapellaForkVersion_knows p.forkVersionResolver p.outside.cl s.world trivial
    unfold onWorld onPart
    cases ran : p.forkVersionResolver.getCapellaForkVersion p.outside.cl s.world with
    | ok version world =>
      rw [ran] at known
      exact ⟨start.frame rfl rfl, known⟩
    | error e world => exact start.frame rfl rfl
  refine Triple.bind (onWorld_latched _) fun currentVersion => ?_
  refine Triple.bind capella fun capellaVersion => ?_
  rintro s ⟨start, known⟩
  refine ⟨⟨⟨start.ordered, fun isDencun inside => ?_, start.forced, start.shown, start.domain⟩, rfl⟩, known, ?_⟩
  · exact le_trans (start.last isDencun inside) (Bool.left_le_or _ _)
  · intro activated
    show (s.isDencunActivated || _) = true
    rw [activated, Bool.or_true]

/-- **A load is under what was resolved.** -/
theorem load_latched {forkInfo : ForkVersionInfo} (resolved : p.Resolved forkInfo) :
    Preserves (p.LatchedAt forkInfo.isDencun) (p.loadToMemoryStorage forkInfo) := by
  have parts : p.Parts (p.LatchedAt forkInfo.isDencun) := {
    asks := fun _ s kept => by
      rename_i x _
      unfold onWorld onPart
      cases x s.world with
      | ok _ _ => exact ⟨kept.1.frame rfl rfl, kept.2⟩
      | error _ _ => exact ⟨kept.1.frame rfl rfl, kept.2⟩
    starts := fun _ s kept => ⟨kept.1.frame rfl rfl, kept.2⟩
    storage := fun _ s kept => ⟨kept.1.frame rfl rfl, kept.2⟩
    marks := fun _ s kept => ⟨kept.1.frame rfl rfl, kept.2⟩
    gauge := fun s kept => ⟨kept.1.frame rfl rfl, kept.2⟩ }
  refine load_parts parts forkInfo fun v same domain s kept =>
    ⟨kept.1.note (fun isDencun said => ?_) ?_ ?_, kept.2⟩
  · cases said
    exact ⟨same.trans kept.2.symm, fun force => same.trans (resolved.forced force)⟩
  · rintro _ ⟨⟩
  · rintro _ ⟨⟩
    rw [domain]
    exact resolved.known

theorem reload_latched : Preserves p.Latched p.reloadAndVerifyMessages := by
  unfold reloadAndVerifyMessages
  by_cases webhook : missing p.MESSAGES_LOCATION
  · rw [if_pos webhook]
    exact Preserves.pure
  rw [if_neg webhook]
  refine Triple.bind getForkVersionInfo_latched fun forkInfo => ?_
  rintro s ⟨start, resolved⟩
  have loaded : Triple (p.LatchedAt forkInfo.isDencun) (p.loadToMemoryStorage forkInfo)
      (fun _ => p.LatchedAt forkInfo.isDencun) p.Latched :=
    (load_latched resolved).weaken (fun _ kept => kept) (fun _ _ kept => kept) fun _ kept => kept.1
  refine Triple.bind loaded (fun _ => ?_) s start
  rintro s ⟨kept, flag⟩
  refine kept.note (fun isDencun said => ?_) ?_ ?_
  · cases said
    exact ⟨flag.symm, resolved.forced⟩
  · rintro _ ⟨⟩
    exact resolved.shown
  · rintro _ ⟨⟩

end MessagesProcessor

/-! ### Jobs -/

namespace JobProcessor

open MessagesProcessor

variable {p : JobProcessor σ}

theorem handOver_latched (event : ValidatorsToEject) :
    Preserves p.messagesProcessor.Latched (p.handOver event) := by
  have counted (request : EStateM Failure σ Unit) :
      Preserves p.messagesProcessor.Latched (countOutcome request) :=
    Triple.tryCatch (Triple.bind (onWorld_latched request) fun _ _ kept => kept.frame rfl rfl) fun _ _ kept =>
      kept.frame rfl rfl
  have handed : Preserves p.messagesProcessor.Latched (MessagesProcessor.note (.handed event)) :=
    fun _ kept => kept.note_silent rfl
  refine handed.bind fun _ => ?_
  by_cases messages : missing p.VALIDATOR_EXIT_WEBHOOK
  · rw [if_pos messages]
    have read : Preserves p.messagesProcessor.Latched (get : MessagesProcessor.Run σ _) := fun _ kept => kept
    refine Triple.bind read fun s => ?_
    cases s.messageStorage.findByValidatorIndex event.validatorIndex with
    | none =>
      have noted : Preserves p.messagesProcessor.Latched
          (MessagesProcessor.note (.unstored event s.messageStorage)) := fun _ kept => kept.note_silent rfl
      exact noted.bind fun _ _ kept => kept.frame rfl rfl
    | some message =>
      have noted : Preserves p.messagesProcessor.Latched
          (MessagesProcessor.note (.exitRequested event s.messageStorage message)) :=
        fun _ kept => kept.note_silent rfl
      exact noted.bind fun _ => counted _
  · rw [if_neg messages]
    exact counted _

/-- **A job keeps the invariant**, however it ends. -/
theorem handleJob_latched : Preserves (fun s => p.messagesProcessor.Latched s.messages) p.handleJob := by
  have prepared : Preserves (fun s => p.messagesProcessor.Latched s.messages) p.prepare := by
    refine prepare_parts (fun _ kept => kept.note_silent rfl) reload_latched (fun _ => onWorld_latched _)
      fun lastBlockNumber s kept => ?_
    unfold onExitLogs onPart
    dsimp only
    cases p.exitLogs.getLogs lastBlockNumber ⟨s.cache, s.header, s.messages.world⟩ with
    | ok _ _ => exact kept.frame rfl rfl
    | error _ _ => exact kept.frame rfl rfl
  refine Triple.bind prepared fun prepared => ?_
  have loop : Preserves (fun s => p.messagesProcessor.Latched s.messages) (p.handleEvents prepared) :=
    handleEvents_preserves handOver_latched fun _ kept => kept.frame rfl rfl
  refine Triple.bind loop fun _ s kept => ?_
  obtain ⟨world, leftMessages, ended, -⟩ := updateLeftMessages_run p.keeps_true s trivial
  rw [ended]
  exact kept.frame rfl rfl

/-- **In every run Dencun is remembered.** From the first reload or verification under Dencun on, all are; with
`FORCE_DENCUN_FORK_MODE` all of them are, and no reload whose versions show Dencun is not. -/
theorem run_latched (world : σ) : ∀ jobs, p.messagesProcessor.Latched (p.run world jobs).messages
  | 0 => ⟨.nil, fun _ inside => (by cases inside), fun _ _ inside => (by cases inside),
      fun _ inside => (by cases inside), fun _ inside => (by cases inside)⟩
  | jobs + 1 => Preserves.stateAfter handleJob_latched (run_latched world jobs)

end JobProcessor

end Dencun

end ValidatorEjector
