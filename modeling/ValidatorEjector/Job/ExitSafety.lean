/-
**Which exit messages are sent out.**

A message reaches the network long after its check: it stays in the storage through reloads that only see
its file again, fail halfway, replace other messages or drop an old fork.

* `SignedOver`, `Accepts` — a verification found the signature of a message valid.
* `currentReload` — the reload that succeeded in the running job; `SafeExit`, `SafeJournal` — what holds
  of an exit request, and of all of a journal.
* `Verified` — the invariant: what is stored has been accepted; `Loaded` — and is of one fork.
* `load_verified`, `reload_verified`, `handOver_verified` — the parts of a job keep it; `prepare_steady` — what a
  job keeps up to its loop.
* `run_exits_safe` — every exit request of every run.
-/

import ValidatorEjector.Job.Frame

namespace ValidatorEjector

open Js Library Library.Program

/-- The forks a signature may be over. -/
def Verification.forks (v : Verification) : List String :=
  if v.isDencun then [v.capellaForkVersion] else [v.state.current_version, v.state.previous_version]

/-- The fork of the reload that succeeded in the running job. -/
def currentReload (journal : List Occurrence) : Option ForkVersionInfo :=
  journal.foldl (fun reload occurrence =>
    match occurrence with
    | .jobStarted => none
    | .reloaded forkInfo => some forkInfo
    | _ => reload) none

namespace MessagesProcessor

variable {σ : Type}

/-- The message is signed under the key over the signing domain of the fork. -/
def SignedOver (p : MessagesProcessor σ) (v : Verification) (fork key : String) (m : ExitMessage) : Prop :=
  ∃ pubKey signature root forkBytes, p.crypto.fromHex key = .ok pubKey ∧
    p.crypto.fromHex m.signature = .ok signature ∧
    p.crypto.fromHex v.genesis.genesis_validators_root = .ok root ∧ p.crypto.fromHex fork = .ok forkBytes ∧
    p.verifyFork pubKey signature root m.message forkBytes = true

/-- **The verification accepts the message**: the node reported a key for exactly its index, of a
validator that was not exiting, and the signature is valid under that key over the signing domain of a
fork in force. -/
def Accepts (p : MessagesProcessor σ) (v : Verification) (m : ExitMessage) : Prop :=
  ∃ info, v.validatorsInfoMap.get? m.message.validator_index = some info ∧
    info.index = m.message.validator_index ∧ info.isExiting = false ∧
    ∃ pubKey signature root fork forkBytes, p.crypto.fromHex info.pubKey = .ok pubKey ∧
      p.crypto.fromHex m.signature = .ok signature ∧
      p.crypto.fromHex v.genesis.genesis_validators_root = .ok root ∧
      fork ∈ v.forks ∧ p.crypto.fromHex fork = .ok forkBytes ∧
      p.crypto.blsVerify pubKey (p.crypto.computeSigningRoot (parseInt m.message.epoch 10)
        (parseInt m.message.validator_index 10)
        (p.crypto.computeDomain DOMAIN_VOLUNTARY_EXIT forkBytes root)) signature = true

/-- **An exit request that is safe** after what the ejector has done before. -/
structure SafeExit (p : MessagesProcessor σ) (before : List Occurrence) (event : ValidatorsToEject)
    (storage : MessageStorage) (message : ExitMessage) : Prop where
  /-- The event is the one being handled, and the message is for its validator. -/
  handed : before.getLast? = some (.handed event)
  index : message.message.validator_index = event.validatorIndex
  accepted : ∃ v, Occurrence.verified v ∈ before ∧ p.Accepts v message
  /-- The message is stored under the fork of the reload of the same job. -/
  current : ∃ stored forkInfo, storage.messagesMetadata.get? event.validatorIndex = some stored ∧
    stored.data = message ∧ currentReload before = some forkInfo ∧
    stored.meta.forkVersion = forkInfo.currentVersion

/-- Every exit request of the journal is safe. -/
def SafeJournal (p : MessagesProcessor σ) (journal : List Occurrence) : Prop :=
  ∀ before event storage message after,
    journal = before ++ .exitRequested event storage message :: after →
    p.SafeExit before event storage message

/-! ### Journals -/

section Journals

variable {p : MessagesProcessor σ} {journal : List Occurrence} {occurrence : Occurrence}

theorem SafeJournal.append (safe : p.SafeJournal journal)
    (last : ∀ event storage message, occurrence = .exitRequested event storage message →
      p.SafeExit journal event storage message) : p.SafeJournal (journal ++ [occurrence]) := by
  intro before event storage message after split
  rcases List.eq_nil_or_concat after with rfl | ⟨after', final, rfl⟩
  · obtain ⟨same, here⟩ := List.append_inj' split rfl
    cases here
    rw [← same]
    exact last event storage message rfl
  · rw [List.concat_eq_append, ← List.cons_append, ← List.append_assoc] at split
    exact safe before event storage message after' (List.append_inj' split rfl).1

theorem currentReload_append : currentReload (journal ++ [occurrence]) = match occurrence with
    | .jobStarted => none
    | .reloaded forkInfo => some forkInfo
    | _ => currentReload journal := by
  unfold currentReload
  rw [List.foldl_append]
  cases occurrence <;> rfl

end Journals

/-! ### The invariant -/

/-- **What is stored has been accepted**, and every exit request was safe. Without a place to load
messages from nothing is stored. -/
structure Verified (p : MessagesProcessor σ) (s : MessagesState σ) : Prop where
  accepted : ∀ m, s.messageStorage.Stores m → ∃ v, .verified v ∈ s.journal ∧ p.Accepts v m.data
  safe : p.SafeJournal s.journal
  absent : missing p.MESSAGES_LOCATION = true → ∀ m, ¬ s.messageStorage.Stores m

/-- What is stored has been accepted, and is of the fork. -/
structure Loaded (p : MessagesProcessor σ) (forkVersion : String) (s : MessagesState σ) : Prop
    extends Verified p s where
  forked : ∀ m, s.messageStorage.Stores m → m.meta.forkVersion = forkVersion

/-- What is stored is of the fork of the reload of the running job. -/
structure Ready (p : MessagesProcessor σ) (s : MessagesState σ) : Prop extends Verified p s where
  current : ∀ m, s.messageStorage.Stores m → ∃ forkInfo, currentReload s.journal = some forkInfo ∧
    m.meta.forkVersion = forkInfo.currentVersion

/-- A property of the messages that are stored and of the journal only. -/
def Steady (K : MessagesState σ → Prop) : Prop :=
  ∀ s s', K s → s'.messageStorage.messagesMetadata = s.messageStorage.messagesMetadata →
    s'.journal = s.journal → K s'

section Invariant

variable {p : MessagesProcessor σ} {s : MessagesState σ} {forkVersion : String}

theorem steady_verified : Steady (Verified p) := by
  intro s s' start stored journal
  have same (m : ExitMessageWithMetadata) : s'.messageStorage.Stores m ↔ s.messageStorage.Stores m := by
    unfold MessageStorage.Stores
    rw [stored]
  refine ⟨fun m inside => ?_, ?_, fun none m inside => start.absent none m ((same m).mp inside)⟩
  · rw [journal]
    exact start.accepted m ((same m).mp inside)
  · rw [journal]
    exact start.safe

/-- An entry of the journal that is no exit request. -/
theorem Verified.note (start : Verified p s) {occurrence : Occurrence}
    (last : ∀ event storage message, occurrence = .exitRequested event storage message →
      p.SafeExit s.journal event storage message) :
    Verified p { s with journal := s.journal ++ [occurrence] } where
  accepted m inside := by
    obtain ⟨v, noted, accepts⟩ := start.accepted m inside
    exact ⟨v, List.mem_append_left _ noted, accepts⟩
  safe := start.safe.append last
  absent := start.absent

theorem steady_loaded : Steady (Loaded p forkVersion) := by
  intro s s' start stored journal
  refine ⟨steady_verified s s' start.toVerified stored journal, fun m inside => ?_⟩
  unfold MessageStorage.Stores at inside
  rw [stored] at inside
  exact start.forked m inside

theorem steady_ready : Steady (Ready p) := by
  intro s s' start stored journal
  refine ⟨steady_verified s s' start.toVerified stored journal, fun m inside => ?_⟩
  unfold MessageStorage.Stores at inside
  rw [stored] at inside
  rw [journal]
  exact start.current m inside

end Invariant

/-! ### Loading -/

section Loading

variable {p : MessagesProcessor σ} {K : MessagesState σ → Prop} {forkVersion : String}

theorem onWorld_steady (steady : Steady K) {α : Type} (x : EStateM Failure σ α) :
    Preserves K (onWorld x) := by
  intro s start
  unfold onWorld onPart
  cases x s.world with
  | ok _ _ => exact steady s _ start rfl rfl
  | error _ _ => exact steady s _ start rfl rfl

theorem markInvalid_steady (steady : Steady K) (filename : String) :
    Preserves K (markInvalid filename) :=
  fun s start => steady s _ start rfl rfl

/-- A file is loaded under the fork of the cycle, if at all. -/
theorem loadFile_steady (steady : Steady K) (messageFile : MessageFile) :
    Triple K (p.loadFile forkVersion messageFile)
      (fun ms s => K s ∧ ∀ m ∈ ms, m.meta.forkVersion = forkVersion) K := by
  have nothing : Triple K (pure [] : Run σ (List ExitMessageWithMetadata))
      (fun ms s => K s ∧ ∀ m ∈ ms, m.meta.forkVersion = forkVersion) K :=
    fun _ kept => ⟨kept, fun _ member => by cases member⟩
  have touched : Preserves K
      (onStorage (·.touchMessageWithChecksum (p.crypto.sha256 messageFile.content)) : Run σ Bool) :=
    fun s kept => steady s _ kept MessageStorage.messagesMetadata_touch rfl
  unfold loadFile
  by_cases empty : messageFile.content = ""
  · rw [if_pos empty]
    exact Triple.bind (markInvalid_steady steady _) fun _ => nothing
  · rw [if_neg empty]
    refine Triple.bind touched fun seen => ?_
    cases seen with
    | true => exact nothing
    | false =>
      refine Triple.bind Preserves.ofResult fun message => ?_
      cases message with
      | none => exact Triple.bind (markInvalid_steady steady _) fun _ => nothing
      | some message =>
        exact fun _ kept => ⟨kept, fun m member => by rw [List.mem_singleton.mp member]⟩

theorem loadNewMessages_steady (steady : Steady K) : Triple K (p.loadNewMessages forkVersion)
    (fun ms s => K s ∧ ∀ m ∈ ms, m.meta.forkVersion = forkVersion) K := by
  unfold loadNewMessages
  by_cases webhook : missing p.MESSAGES_LOCATION
  · rw [if_pos webhook]
    exact fun _ kept => ⟨kept, fun _ member => by cases member⟩
  · rw [if_neg webhook]
    exact Triple.bind (onWorld_steady steady _) fun folder =>
      Triple.collect fun messageFile _ => loadFile_steady steady messageFile

theorem getForkVersionInfo_steady (steady : Steady K) : Preserves K p.getForkVersionInfo := by
  refine Triple.bind (onWorld_steady steady _) fun currentVersion => ?_
  refine Triple.bind (onWorld_steady steady _) fun capellaVersion => ?_
  exact fun s kept => steady s _ kept rfl rfl

end Loading

/-! ### Verification -/

section Verification

variable {p : MessagesProcessor σ} {forkVersion : String} {v : Verification}

/-- What the map of the answers has for an index was reported for it. -/
theorem reported_of_infos {cl : ConsensusApi σ} {indices : List String} {batchSize : ℕ+} {tag : String}
    {infos : OrderedMap String ValidatorInfo} {world world' : σ}
    (fetched : cl.fetchValidatorsInfoBatch indices batchSize tag world = .ok infos world') {i : String}
    {info : ValidatorInfo} (found : infos.get? i = some info) : ∃ validators,
      cl.fetchValidatorsBatch indices batchSize tag world = .ok validators world' ∧
      ∃ v ∈ validators, v.index = i ∧ v.toInfo = info := by
  obtain ⟨validators, _, asked, made⟩ := bind_ok.mp fetched
  cases made
  rw [OrderedMap.get?_ofEntries] at found
  obtain ⟨v, member, pair⟩ := List.mem_map.mp (mem_of_lastValue? found)
  exact ⟨validators, asked, v, member, (Prod.mk.inj pair).1, (Prod.mk.inj pair).2⟩

theorem onWorld_infos {K : MessagesState σ → Prop} (steady : Steady K) {cl : ConsensusApi σ}
    {indices : List String} {batchSize : ℕ+} {tag : String} :
    Triple K (onWorld (cl.fetchValidatorsInfoBatch indices batchSize tag))
      (fun infos s => K s ∧ ∀ i info, infos.get? i = some info → info.index = i) K := by
  intro s start
  unfold onWorld onPart
  cases fetched : cl.fetchValidatorsInfoBatch indices batchSize tag s.world with
  | ok infos _ =>
    refine ⟨steady s _ start rfl rfl, fun i info found => ?_⟩
    obtain ⟨_, _, v, _, index, same⟩ := reported_of_infos fetched found
    rw [← same]
    exact index
  | error _ _ => exact steady s _ start rfl rfl

/-- **A signature that is valid** is over the domain of a fork in force. -/
theorem signedOver_of_valid {m : ExitMessage} {key : String}
    (valid : p.isValidSignature v.toSigningContext key m = .ok true) :
    ∃ fork ∈ v.forks, p.SignedOver v fork key m := by
  obtain ⟨pubKey, readKey, valid⟩ := except_bind_ok.mp valid
  obtain ⟨signature, readSignature, valid⟩ := except_bind_ok.mp valid
  obtain ⟨root, readRoot, valid⟩ := except_bind_ok.mp valid
  obtain ⟨current, readCurrent, valid⟩ := except_bind_ok.mp valid
  obtain ⟨previous, readPrevious, valid⟩ := except_bind_ok.mp valid
  obtain ⟨capella, readCapella, valid⟩ := except_bind_ok.mp valid
  have checked := Except.ok.inj valid
  have signed {fork : String} {forkBytes : Bytes} (read : p.crypto.fromHex fork = .ok forkBytes)
      (holds : p.verifyFork pubKey signature root m.message forkBytes = true) : p.SignedOver v fork key m :=
    ⟨pubKey, signature, root, forkBytes, readKey, readSignature, readRoot, read, holds⟩
  unfold Verification.forks
  cases dencun : v.isDencun with
  | true =>
    rw [dencun] at checked
    exact ⟨_, List.mem_cons_self, signed readCapella checked⟩
  | false =>
    rw [dencun] at checked
    rcases Bool.or_eq_true_iff.mp checked with holds | holds
    · exact ⟨_, List.mem_cons_self, signed readCurrent holds⟩
    · exact ⟨_, List.mem_cons_of_mem _ List.mem_cons_self, signed readPrevious holds⟩

/-- So its message is accepted. -/
theorem accepts_of_valid {m : ExitMessage} {info : ValidatorInfo}
    (found : v.validatorsInfoMap.get? m.message.validator_index = some info)
    (index : info.index = m.message.validator_index) (staying : info.isExiting = false)
    (valid : p.isValidSignature v.toSigningContext info.pubKey m = .ok true) : p.Accepts v m := by
  obtain ⟨fork, inForce, pubKey, signature, root, forkBytes, readKey, readSignature, readRoot, read, holds⟩ :=
    signedOver_of_valid valid
  exact ⟨info, found, index, staying, pubKey, signature, root, fork, forkBytes, readKey, readSignature,
    readRoot, inForce, read, holds⟩

/-- A turn pushes a message only if the verification accepts it. -/
theorem verifyMessage_accepts {I : MessagesState σ → Prop}
    (mark : ∀ filename, Preserves I (markInvalid filename))
    (indexed : ∀ i info, v.validatorsInfoMap.get? i = some info → info.index = i)
    (m : ExitMessageWithMetadata) : Triple I (p.verifyMessage v m)
      (fun ms s => I s ∧ ∀ u ∈ ms, u = m ∧ p.Accepts v u.data) I := by
  have nothing : Triple I (pure [] : Run σ (List ExitMessageWithMetadata))
      (fun ms s => I s ∧ ∀ u ∈ ms, u = m ∧ p.Accepts v u.data) I :=
    fun _ kept => ⟨kept, fun _ member => by cases member⟩
  have rejected : Triple I (markInvalid m.meta.filename >>= fun _ =>
      (pure [] : Run σ (List ExitMessageWithMetadata)))
      (fun ms s => I s ∧ ∀ u ∈ ms, u = m ∧ p.Accepts v u.data) I :=
    Triple.bind (mark _) fun _ => nothing
  unfold verifyMessage
  cases found : v.validatorsInfoMap.get? m.index with
  | none => exact rejected
  | some info =>
    dsimp only
    cases staying : info.isExiting with
    | true => exact nothing
    | false =>
      cases checked : p.isValidSignature v.toSigningContext info.pubKey m.data with
      | error e => exact fun _ kept => kept
      | ok valid =>
        cases valid with
        | false => exact rejected
        | true =>
          refine fun _ kept => ⟨kept, fun u member => ?_⟩
          rw [List.mem_singleton.mp member]
          exact ⟨rfl, accepts_of_valid found (indexed _ _ found) staying checked⟩

/-- **What passes `verify` has been accepted by a verification of the journal.** -/
theorem verify_loaded {messages : List ExitMessageWithMetadata} {isDencun : Bool}
    {capellaForkVersion : String} (forked : ∀ m ∈ messages, m.meta.forkVersion = forkVersion) :
    Triple (Loaded p forkVersion) (p.verify messages isDencun capellaForkVersion)
      (fun ms s => Loaded p forkVersion s ∧ ∀ m ∈ ms, m.meta.forkVersion = forkVersion ∧
        ∃ v, .verified v ∈ s.journal ∧ p.Accepts v m.data) (Loaded p forkVersion) := by
  unfold verify
  by_cases webhook : missing p.MESSAGES_LOCATION
  · rw [if_pos webhook]
    exact fun _ kept => ⟨kept, fun _ member => by cases member⟩
  · rw [if_neg webhook]
    refine Triple.bind (onWorld_steady steady_loaded _) fun genesis => ?_
    refine Triple.bind (onWorld_steady steady_loaded _) fun state => ?_
    refine Triple.bind (onWorld_infos steady_loaded) fun validatorsInfoMap => ?_
    let v : Verification := ⟨⟨isDencun, capellaForkVersion, genesis, state⟩, validatorsInfoMap⟩
    -- the loop runs with `v` in the journal, so the results may point to it
    have steady : Steady fun s => Loaded p forkVersion s ∧ Occurrence.verified v ∈ s.journal :=
      fun s s' start stored journal =>
        ⟨steady_loaded s s' start.1 stored journal, by rw [journal]; exact start.2⟩
    rintro s ⟨start, indexed⟩
    have noted : Loaded p forkVersion { s with journal := s.journal ++ [.verified v] } :=
      ⟨start.toVerified.note fun _ _ _ other => (by cases other), start.forked⟩
    have turn : ∀ m ∈ messages, Triple
        (fun s => Loaded p forkVersion s ∧ Occurrence.verified v ∈ s.journal) (p.verifyMessage v m)
        (fun ms s => (Loaded p forkVersion s ∧ Occurrence.verified v ∈ s.journal) ∧
          ∀ u ∈ ms, u.meta.forkVersion = forkVersion ∧ p.Accepts v u.data)
        fun s => Loaded p forkVersion s ∧ Occurrence.verified v ∈ s.journal := fun m member =>
      (verifyMessage_accepts (markInvalid_steady steady) indexed m).weaken (fun _ start => start)
        (fun ms s ends => ⟨ends.1, fun u inside =>
          ⟨by rw [(ends.2 u inside).1]; exact forked m member, (ends.2 u inside).2⟩⟩) fun _ kept => kept
    have loop := Triple.collect turn
    refine (loop.weaken (fun _ start => start) (fun ms s ends => ?_) fun _ kept => kept.1)
      { s with journal := s.journal ++ [.verified v] }
      ⟨noted, List.mem_append_right _ List.mem_cons_self⟩
    exact ⟨ends.1.1, fun m inside => ⟨(ends.2 m inside).1, v, ends.1.2, (ends.2 m inside).2⟩⟩

end Verification

/-! ### Reloads -/

section Reload

variable {p : MessagesProcessor σ}

/-- A cycle starts without the messages of other forks. -/
theorem startCycle_loaded (currentVersion : String) : Triple (Verified p) (p.startCycle currentVersion)
    (fun _ => Loaded p currentVersion) (Verified p) := by
  intro s start
  have kept (m : ExitMessageWithMetadata) : ((s.messageStorage.startUpdateCycle
      (p.outside.now s.world).1).removeOldForkVersionMessages currentVersion).Stores m ↔
      s.messageStorage.Stores m ∧ m.meta.forkVersion = currentVersion := by
    rw [MessageStorage.stores_removeOldForkVersionMessages, MessageStorage.stores_startUpdateCycle]
  exact ⟨⟨fun m inside => start.accepted m ((kept m).mp inside).1, start.safe,
    fun none m inside => start.absent none m ((kept m).mp inside).1⟩,
    fun m inside => ((kept m).mp inside).2⟩

/-- **A load stores only what has been accepted**, under its own fork. -/
theorem load_verified (present : missing p.MESSAGES_LOCATION = false) (forkInfo : ForkVersionInfo) :
    Triple (Verified p) (p.loadToMemoryStorage forkInfo) (fun _ => Loaded p forkInfo.currentVersion)
      (Verified p) := by
  -- a failure after the start of the cycle leaves a loaded state
  have failing {α : Type} {P : MessagesState σ → Prop} {x : Run σ α}
      {Q : α → MessagesState σ → Prop} (triple : Triple P x Q (Loaded p forkInfo.currentVersion)) :
      Triple P x Q (Verified p) :=
    triple.weaken (fun _ start => start) (fun _ _ kept => kept) fun _ kept => kept.toVerified
  let passed (ms : List ExitMessageWithMetadata) (s : MessagesState σ) : Prop :=
    Loaded p forkInfo.currentVersion s ∧ ∀ m ∈ ms, m.meta.forkVersion = forkInfo.currentVersion ∧
      ∃ v, .verified v ∈ s.journal ∧ p.Accepts v m.data
  refine Triple.bind (startCycle_loaded _) fun _ => ?_
  refine Triple.bind (failing (loadNewMessages_steady steady_loaded)) fun newMessages => ?_
  rintro s ⟨start, forked⟩
  refine Triple.bind (failing (verify_loaded forked)) (fun verified => ?_) s start
  have pruned : Triple (passed verified) (onStorage (·.removeOldMessages) : Run σ Nat)
      (fun _ => passed verified) (Verified p) := by
    rintro s ⟨start, good⟩
    exact ⟨⟨⟨fun m inside => start.accepted m (MessageStorage.of_stores_removeOldMessages inside),
      start.safe, fun none m inside =>
        start.absent none m (MessageStorage.of_stores_removeOldMessages inside)⟩,
      fun m inside => start.forked m (MessageStorage.of_stores_removeOldMessages inside)⟩, good⟩
  have updated : Triple (passed verified)
      (onStorage (·.updateMessages verified) : Run σ MessageStorage.UpdateStats)
      (fun _ => Loaded p forkInfo.currentVersion) (Verified p) := by
    rintro s ⟨start, good⟩
    refine ⟨⟨fun m inside => ?_, start.safe, fun none => ?_⟩, fun m inside => ?_⟩
    · rcases MessageStorage.of_stores_updateMessages inside with before | new
      · exact start.accepted m before
      · exact (good m new).2
    · rw [present] at none
      cases none
    · rcases MessageStorage.of_stores_updateMessages inside with before | new
      · exact start.forked m before
      · exact (good m new).1
  refine Triple.bind pruned fun removed => ?_
  refine Triple.bind updated fun stats => ?_
  exact fun s kept => steady_loaded s _ kept rfl rfl

/-- **After a reload everything stored is of its fork**, and a failed one keeps the invariant. -/
theorem reload_verified :
    Triple (Verified p) p.reloadAndVerifyMessages (fun _ => Ready p) (Verified p) := by
  unfold reloadAndVerifyMessages
  cases present : missing p.MESSAGES_LOCATION with
  | true =>
    exact fun s start => ⟨start, fun m inside => absurd inside (start.absent present m)⟩
  | false =>
    refine Triple.bind (getForkVersionInfo_steady steady_verified) fun forkInfo => ?_
    refine Triple.bind (load_verified present forkInfo) fun _ => ?_
    intro s loaded
    refine ⟨loaded.toVerified.note fun _ _ _ other => (by cases other), fun m inside => ?_⟩
    exact ⟨forkInfo, currentReload_append, loaded.forked m inside⟩

/-! ### Exits -/

theorem countOutcome_steady {K : MessagesState σ → Prop} (steady : Steady K)
    (request : EStateM Failure σ Unit) : Preserves K (countOutcome request) := by
  have counted (succeeded : Bool) : Preserves K (countAction succeeded : Run σ Unit) :=
    fun s kept => steady s _ kept rfl rfl
  exact Triple.tryCatch (Triple.bind (onWorld_steady steady request) fun _ => counted true)
    fun _ => counted false

/-- **An exit sends only a stored message**, which is safe once the reload has succeeded. -/
theorem exit_verified (event : ValidatorsToEject) :
    Triple (fun s => Ready p s ∧ s.journal.getLast? = some (.handed event)) (p.exit event)
      (fun _ => Ready p) (Ready p) := by
  rintro s ⟨start, last⟩
  unfold exit
  rw [bind_of_ok (show (get : Run σ _) s = .ok s s from rfl)]
  unfold MessageStorage.findByValidatorIndex
  cases found : s.messageStorage.messagesMetadata.get? event.validatorIndex with
  | none =>
    have noted : Ready p { s with journal := s.journal ++ [.unstored event s.messageStorage] } :=
      ⟨start.toVerified.note fun _ _ _ same => (by cases same), fun m inside =>
        currentReload_append ▸ start.current m inside⟩
    exact steady_ready _ _ noted rfl rfl
  | some stored =>
    obtain ⟨inside, index⟩ := MessageStorage.stores_of_get? found
    obtain ⟨forkInfo, reload, fork⟩ := start.current stored inside
    have safe : p.SafeExit s.journal event s.messageStorage stored.data :=
      ⟨last, index, start.accepted stored inside, stored, forkInfo, found, rfl, reload, fork⟩
    have noted : Ready p { s with
        journal := s.journal ++ [.exitRequested event s.messageStorage stored.data] } := by
      refine ⟨start.toVerified.note fun _ _ _ same => ?_, fun m inside => ?_⟩
      · cases same
        exact safe
      · exact currentReload_append ▸ start.current m inside
    exact countOutcome_steady steady_ready (p.outside.exitRequest stored.data) _ noted

end Reload

end MessagesProcessor

/-! ### Jobs -/

namespace JobProcessor

open MessagesProcessor

variable {σ : Type} {p : JobProcessor σ}

/-- Handing an event over keeps the invariant of a job. -/
theorem handOver_verified (event : ValidatorsToEject) :
    Preserves (Ready p.messagesProcessor) (p.handOver event) := by
  have noted : Triple (Ready p.messagesProcessor) (note (.handed event) : MessagesProcessor.Run σ Unit)
      (fun _ s => Ready p.messagesProcessor s ∧ s.journal.getLast? = some (.handed event))
      (Ready p.messagesProcessor) := by
    intro s start
    refine ⟨⟨start.toVerified.note fun _ _ _ other => (by cases other), fun m inside => ?_⟩,
      List.getLast?_concat⟩
    exact currentReload_append ▸ start.current m inside
  refine Triple.bind noted fun _ => ?_
  by_cases messages : missing p.VALIDATOR_EXIT_WEBHOOK
  · rw [if_pos messages]
    exact exit_verified event
  · rw [if_neg messages]
    exact (countOutcome_steady steady_ready _).weaken (fun _ start => start.1) (fun _ _ kept => kept)
      fun _ kept => kept

/-- A job that comes to its loop has reloaded its messages, and then has only asked for something. -/
theorem prepare_steady {K R : MessagesState σ → Prop} (steadyK : Steady K) (steadyR : Steady R)
    (keeps : ∀ s, R s → K s) (started : Preserves K (note .jobStarted))
    (reload : Triple K p.messagesProcessor.reloadAndVerifyMessages (fun _ => R) K) :
    Triple (fun s => K s.messages) p.prepare (fun _ s => R s.messages) (fun s => K s.messages) := by
  have asked {α : Type} (x : EStateM Failure σ α) : Triple (fun s => R s.messages) (onWorld x)
      (fun _ s => R s.messages) (fun s => K s.messages) :=
    Triple.part (fun _ _ => rfl) ((onWorld_steady steadyR x).weaken (fun _ start => start)
      (fun _ _ kept => kept) keeps)
  -- the exit logs share the world with the message side, and nothing else
  have logs {α : Type} (x : EStateM Failure (ExitLogsState σ) α) : Triple (fun s => R s.messages)
      (onExitLogs x) (fun _ s => R s.messages) (fun s => K s.messages) := by
    intro s start
    unfold onExitLogs onPart
    dsimp only
    cases x ⟨s.cache, s.header, s.messages.world⟩ with
    | ok _ _ => exact steadyR _ _ start rfl rfl
    | error _ _ => exact steadyK _ _ (keeps _ start) rfl rfl
  have first : Preserves (fun s : JobState σ => K s.messages) (onMessages (note .jobStarted)) :=
    Triple.part (fun _ _ => rfl) started
  have reloaded : Triple (fun s : JobState σ => K s.messages)
      (onMessages p.messagesProcessor.reloadAndVerifyMessages) (fun _ s => R s.messages)
      (fun s => K s.messages) :=
    Triple.part (fun _ _ => rfl) reload
  have loads : Triple (fun s => K s.messages) p.loadEvents (fun _ s => R s.messages)
      (fun s => K s.messages) := by
    refine Triple.bind first fun _ => ?_
    refine Triple.bind reloaded fun _ => ?_
    refine Triple.bind (asked _) fun _ => ?_
    refine Triple.bind (asked _) fun _ => ?_
    refine Triple.bind (asked _) fun lastBlockNumber => ?_
    refine Triple.bind (logs _) fun eventsForEject => ?_
    exact Triple.pure fun _ kept => kept
  refine Triple.bind loads fun loaded => ?_
  obtain ⟨lastBlockNumber, eventsForEject⟩ := loaded
  refine Triple.bind (asked _) fun validatorsHead => ?_
  refine Triple.bind (asked _) fun validatorsFinalized => ?_
  exact Triple.pure fun _ kept => kept

theorem prepare_verified : Triple (fun s => Verified p.messagesProcessor s.messages) p.prepare
    (fun _ s => Ready p.messagesProcessor s.messages)
    (fun s => Verified p.messagesProcessor s.messages) := by
  have started : Preserves (Verified p.messagesProcessor) (note .jobStarted) :=
    fun s start => start.note fun _ _ _ other => by cases other
  exact prepare_steady steady_verified steady_ready (fun _ kept => kept.toVerified) started reload_verified

/-- **A job keeps the invariant**, however it ends. -/
theorem handleJob_verified :
    Preserves (fun s => Verified p.messagesProcessor s.messages) p.handleJob := by
  refine Triple.bind prepare_verified fun prepared => ?_
  have loop : Triple (fun s => Ready p.messagesProcessor s.messages) (p.handleEvents prepared)
      (fun _ s => Ready p.messagesProcessor s.messages)
      (fun s => Verified p.messagesProcessor s.messages) :=
    (handleEvents_preserves handOver_verified fun s kept => steady_ready s _ kept rfl rfl).weaken
      (fun _ start => start) (fun _ _ kept => kept) fun _ kept => kept.toVerified
  refine Triple.bind loop fun _ s kept => ?_
  obtain ⟨world, leftMessages, ended, _⟩ := updateLeftMessages_run p.keeps_true s trivial
  rw [ended]
  exact steady_verified _ _ kept.toVerified rfl rfl

/-- The invariant holds in every state of every run. -/
theorem run_verified (world : σ) : ∀ jobs, Verified p.messagesProcessor (p.run world jobs).messages
  | 0 => {
      accepted := fun _ inside => absurd inside MessageStorage.not_stores_fresh
      safe := fun before _ _ _ _ split => by cases before <;> cases split
      absent := fun _ _ => MessageStorage.not_stores_fresh }
  | jobs + 1 => Preserves.stateAfter handleJob_verified (run_verified world jobs)

/-- **Every exit request of every run is safe.** Its message is for the validator of the event being
handled, was accepted by a verification of this or an earlier reload, and is stored under the fork of the
reload that succeeded in the same job. -/
theorem run_exits_safe (world : σ) (jobs : Nat) :
    p.messagesProcessor.SafeJournal (p.run world jobs).messages.journal :=
  (run_verified world jobs).safe

end JobProcessor

end ValidatorEjector
