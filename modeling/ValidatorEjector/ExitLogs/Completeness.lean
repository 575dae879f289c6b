/-
**An honest exit request is verified.**

What the verifier says about an exit request that the oracle finalized, over an honest node.

* `OracleExit` — the request, and what the node serves of it: the finalizing transaction, the event
  `ConsensusReached` of the report, and the transaction that emitted it.
* `Verifiable` — the condition on its block and its transactions.
* `quiet_getTransaction_ok`, `consensusReachedLogs_ok`, `lookup_ok` — what the requests give.
* **`resolves_iff`** — the verification resolves exactly when the request is verifiable.
-/

import ValidatorEjector.ExitLogs.Honest
import ValidatorEjector.ExitLogs.Transparency
import ValidatorEjector.RecordedOracle

namespace ValidatorEjector

open Js Hex Library Library.Program

/-! ### The exit request -/

/-- **An exit request that the oracle finalized**, as an honest node serves it. -/
structure OracleExit (config : FetcherConfig) (chain : ChainData) where
  documented : config.ethers.Documented
  validatorPubkey : String
  transactionHash : String
  block : Nat
  /-- The finalizing transaction, and the call of the Exit Bus in it. -/
  finalTx : Tx
  finalProtected : Bool
  finalJson : Json
  finalAnswer : chain.el (.eth_getTransactionByHash transactionHash) = .ok finalJson
  finalServed : Served finalJson finalTx finalProtected
  call : String
  calls : (config.quiet chain).verifier.CallsExitBus finalTx.input call
  selector : selectorOf call = SUBMIT_REPORT_DATA_SELECTOR
  report : Report
  decodes : config.ethers.decodeSubmitReportData call = .ok report
  slot : report.refSlot < 2 ^ 256
  mentions : MentionsPubkey report.data validatorPubkey
  /-- The events of the consensus contract. -/
  consensusAddress : String
  resolved : (config.quiet chain).verifier.el.consensusAddress = .ok consensusAddress
  isAddress : config.ethers.isAddress consensusAddress = true
  events : List ConsensusReached
  honest : HonestLogs chain consensusAddress events
  parses : ∀ event ∈ events, config.ethers.parseConsensusReached event.log = .ok event.report
  /-- The first event of the report in the frame up to the block, and its transaction. -/
  reached : ConsensusReached
  first : (reachedIn events report.refSlot (block - 7200) block).find? (fun event =>
    event.report = (config.quiet chain).verifier.reportHash report) = some reached
  hash : EthTransaction → String
  origin : EthTransaction
  emitted : reached.transactionHash = hash origin
  originTx : Tx
  servedAs : origin.ServedAs originTx
  originJson : Json
  originAnswer : chain.el (.eth_getTransactionByHash (hash origin)) = .ok originJson
  originServed : Served originJson originTx origin.envelope.chainId.isSome
  submits : (config.quiet chain).verifier.CallsSubmitReport origin.input
    ((config.quiet chain).verifier.reportHash report)
  /-- An oracle of the allowlist signed it. -/
  signer : String
  handles : config.ethers.Handles hash origin signer
  trusted : ∃ oracle ∈ config.ORACLE_ADDRESSES_ALLOWLIST, toLowerCase oracle = toLowerCase signer

/-! ### What the requests give -/

section Requests

variable {config : FetcherConfig} {chain : ChainData}

/-- A transaction is loaded if the node serves it. -/
theorem quiet_getTransaction_ok {transactionHash : String} {tx : Tx}
    {t t' : (config.quiet chain).verifier.State} :
    (config.quiet chain).verifier.getTransaction transactionHash t = .ok tx t' ↔ ∃ json,
      chain.el (.eth_getTransactionByHash transactionHash) = .ok json ∧ txDTO json = .ok tx := by
  constructor
  · intro ran
    rw [Verifier.getTransaction_unknown rfl] at ran
    obtain ⟨json, _, asked, ran⟩ := bind_ok.mp ran
    obtain ⟨tx', _, parsed, ran⟩ := bind_ok.mp ran
    cases ran
    exact ⟨json, onNode_ofResult_ok asked, (ofResult_ok.mp parsed).1⟩
  · rintro ⟨json, answered, parsed⟩
    obtain ⟨t'', ran⟩ := Verifier.getTransaction_of_answer (v := (config.quiet chain).verifier)
        (s := t) rfl
      (ofResult_ok.mpr ⟨answered, rfl⟩) parsed
    rwa [quiet_state t' t'']

/-- **A transaction is read if it has a chain id.** -/
theorem txDTO_served_iff {json : Json} {tx other : Tx} {isProtected : Bool}
    (served : Served json tx isProtected) :
    txDTO json = .ok other ↔ isProtected = true ∧ other = tx := by
  cases isProtected with
  | true =>
    rw [txDTO_served served, Except.ok.injEq]
    exact ⟨fun same => ⟨rfl, same.symm⟩, fun same => same.2.symm⟩
  | false => exact ⟨fun parsed => absurd parsed (txDTO_unprotected served other),
      fun same => by cases same.1⟩

theorem reachedReports_log {ρ : Type} {v : Verifier ρ} {events : List ConsensusReached}
    (parses : ∀ event ∈ events, v.el.ethers.parseConsensusReached event.log = .ok event.report) :
    v.reachedReports (events.map ConsensusReached.log) =
      .ok (events.map fun event => (event.transactionHash, event.report)) := by
  unfold Verifier.reachedReports
  rw [List.mapM_map]
  refine mapM_of_ok fun event inside => ?_
  exact except_bind_ok.mpr ⟨event.report, parses event inside, rfl⟩

end Requests

namespace OracleExit

variable {config : FetcherConfig} {chain : ChainData} (exit : OracleExit config chain)
  {t t' : (config.quiet chain).verifier.State}

/-- **The events of the frame are loaded** if it lies above the first block. -/
theorem consensusReachedLogs_ok {logs : List Log} :
    (config.quiet chain).verifier.consensusReachedLogs (ofRat exit.block)
      (toString exit.report.refSlot) t =
        .ok logs t' ↔
      (7200 < exit.block ∧ exit.block < MAX_SAFE) ∧
        logs = (reachedIn exit.events exit.report.refSlot (exit.block - 7200) exit.block).map
          ConsensusReached.log := by
  have slot : config.ethers.bigNumberFrom (.text (toString exit.report.refSlot)) =
      .ok (exit.report.refSlot : Int) := by
    rw [exit.documented.bigNumberFrom]
    exact bigNumberFrom_text (integer?_toString _)
  have topic : config.ethers.hexZeroPad (config.ethers.toHexString exit.report.refSlot) 32 =
      .ok ("0x" ++ word exit.report.refSlot) := by
    rw [exit.documented.hexZeroPad, exit.documented.toHexString]
    exact hexZeroPad_toHexString exit.slot
  have asks : (config.quiet chain).verifier.consensusReachedLogs (ofRat exit.block)
      (toString exit.report.refSlot) t = (config.quiet chain).verifier.onNode
        ((quietApi config chain).getLogs
        ((ofRat exit.block).sub ORACLE_FRAME_BLOCKS) (ofRat exit.block) exit.consensusAddress
        (reachedTopics exit.report.refSlot)) t := by
    unfold Verifier.consensusReachedLogs
    rw [exit.resolved]
    refine bind_of_ok (ofResult_ok.mpr ⟨rfl, rfl⟩) |>.trans ?_
    refine bind_of_ok (ofResult_ok.mpr ⟨slot, rfl⟩) |>.trans ?_
    exact bind_of_ok (ofResult_ok.mpr ⟨topic, rfl⟩)
  have loads (above : 7200 < exit.block) (safe : exit.block < MAX_SAFE) (node : Unit) :
      (quietApi config chain).getLogs ((ofRat exit.block).sub ORACLE_FRAME_BLOCKS) (ofRat exit.block)
        exit.consensusAddress (reachedTopics exit.report.refSlot) node =
      .ok ((reachedIn exit.events exit.report.refSlot (exit.block - 7200) exit.block).map
        ConsensusReached.log) node := by
    have limit : MAX_SAFE = 2 ^ 53 - 1 := rfl
    have first : (ofRat exit.block).sub ORACLE_FRAME_BLOCKS = .int (exit.block - 7200 : Nat) := by
      rw [ofRat_safe safe, show ((exit.block - 7200 : Nat) : Int) = (exit.block : Int) - 7200 by omega]
      exact JsNumber.sub_int (by unfold ORACLE_FRAME_BLOCKS; omega)
    rw [first, ofRat_safe safe]
    exact getLogs_honest exit.documented exit.isAddress exit.honest exit.slot (by omega)
      (by omega) safe node
  rw [asks]
  constructor
  · intro ran
    obtain ⟨node, asked, _⟩ := Verifier.onNode_ok.mp ran
    obtain ⟨above, safe⟩ := getLogs_bounds exit.documented exit.honest asked
    rw [loads above safe] at asked
    cases asked
    exact ⟨⟨above, safe⟩, rfl⟩
  · rintro ⟨⟨above, safe⟩, rfl⟩
    rw [Verifier.onNode_of_ok (loads above safe t.node)]
    rw [quiet_state t' t]

/-- **The lookup of the report** gives the transaction that reached consensus. -/
theorem lookup_ok {found : String} :
    (config.quiet chain).verifier.consensusReachedTransactionHash (ofRat exit.block)
        (toString exit.report.refSlot) ((config.quiet chain).verifier.reportHash exit.report) t =
          .ok found t' ↔
      (7200 < exit.block ∧ exit.block < MAX_SAFE) ∧ found = exit.hash exit.origin := by
  have parses : (config.quiet chain).verifier.reachedReports
      ((reachedIn exit.events exit.report.refSlot (exit.block - 7200) exit.block).map
        ConsensusReached.log) = _ :=
    reachedReports_log fun event inside => exit.parses event (List.mem_of_mem_filter inside)
  have search : (((reachedIn exit.events exit.report.refSlot (exit.block - 7200) exit.block).map
      fun event => (event.transactionHash, event.report)).find? fun event =>
        event.2 = (config.quiet chain).verifier.reportHash exit.report) =
      some (exit.hash exit.origin, exit.reached.report) := by
    rw [List.find?_map, ← exit.emitted]
    exact congrArg (Option.map _) exit.first
  rw [Verifier.consensusReached_unknown _ _ _ rfl]
  constructor
  · intro ran
    obtain ⟨logs, _, loaded, ran⟩ := bind_ok.mp ran
    obtain ⟨bounds, rfl⟩ := exit.consensusReachedLogs_ok.mp loaded
    obtain ⟨decoded, _, read, ran⟩ := bind_ok.mp ran
    have same := parses.symm.trans (ofResult_ok.mp read).1
    cases same
    rw [search] at ran
    cases ran
    exact ⟨bounds, rfl⟩
  · rintro ⟨bounds, rfl⟩
    refine bind_ok.mpr ⟨_, t', exit.consensusReachedLogs_ok.mpr ⟨bounds, rfl⟩,
      bind_ok.mpr ⟨_, t', ofResult_ok.mpr ⟨parses, rfl⟩, ?_⟩⟩
    rw [search]
    exact congrArg (EStateM.Result.ok _) (quiet_state _ _)

/-- **The condition.** The frame lies above the first block, both transactions have a chain id, and the
origin has an empty access list and safe integers. -/
def Verifiable : Prop :=
  (7200 < exit.block ∧ exit.block < MAX_SAFE) ∧ exit.finalProtected = true ∧
    exit.origin.envelope.chainId.isSome = true ∧ exit.origin.envelope.accessList = [] ∧ exit.origin.Safe

/-- Without caches. -/
theorem resolves_quiet : Resolves ((config.quiet chain).verifier.verify
    ⟨exit.validatorPubkey, exit.transactionHash, ofRat exit.block⟩) t ↔ exit.Verifiable := by
  constructor
  · rintro ⟨_, t', ran⟩
    obtain ⟨tx, t₁, call, loaded, called, paths⟩ := Verifier.verifyEvent_ok.mp ran
    obtain ⟨json, answered, parsed⟩ := quiet_getTransaction_ok.mp loaded
    rw [exit.finalAnswer] at answered
    cases answered
    obtain ⟨finalProtected, rfl⟩ := (txDTO_served_iff exit.finalServed).mp parsed
    have same := (Verifier.exitBusInput_ok.mpr called).symm.trans
        (Verifier.exitBusInput_ok.mpr exit.calls)
    cases same
    rcases paths with ⟨_, decoded, decodes, accepted⟩ | ⟨other, _⟩
    · have same : Except.ok decoded = .ok exit.report := decodes.symm.trans exit.decodes
      cases same
      obtain ⟨_, originTxHash, t₂, originTx, looked, originLoaded, hashes, _⟩ :=
        Verifier.verifyOracleEvent_ok.mp accepted
      obtain ⟨bounds, rfl⟩ := exit.lookup_ok.mp looked
      obtain ⟨json, answered, parsed⟩ := quiet_getTransaction_ok.mp originLoaded
      rw [exit.originAnswer] at answered
      cases answered
      obtain ⟨originProtected, rfl⟩ := (txDTO_served_iff exit.originServed).mp parsed
      obtain ⟨chainId, isProtected⟩ := Option.isSome_iff_exists.mp originProtected
      obtain ⟨safe, empty⟩ :=
        (EthTransaction.hashesTo_iff exit.documented exit.handles exit.servedAs isProtected).mp hashes
      exact ⟨bounds, finalProtected, originProtected, empty, safe⟩
    · rw [exit.selector] at other
      exact absurd other (by decide)
  · rintro ⟨bounds, finalProtected, originProtected, empty, safe⟩
    obtain ⟨chainId, isProtected⟩ := Option.isSome_iff_exists.mp originProtected
    have final : (config.quiet chain).verifier.getTransaction exit.transactionHash t =
        .ok exit.finalTx t :=
      quiet_getTransaction_ok.mpr ⟨_, exit.finalAnswer, (txDTO_served_iff exit.finalServed).mpr
        ⟨finalProtected, rfl⟩⟩
    have looked : (config.quiet chain).verifier.consensusReachedTransactionHash (ofRat exit.block)
        (toString exit.report.refSlot) ((config.quiet chain).verifier.reportHash exit.report) t =
      .ok (exit.hash exit.origin) t := exit.lookup_ok.mpr ⟨bounds, rfl⟩
    have origin : (config.quiet chain).verifier.getTransaction (exit.hash exit.origin) t =
        .ok exit.originTx t :=
      quiet_getTransaction_ok.mpr
        ⟨_, exit.originAnswer, (txDTO_served_iff exit.originServed).mpr ⟨originProtected, rfl⟩⟩
    have hashes := (EthTransaction.hashesTo_iff exit.documented exit.handles exit.servedAs
      isProtected).mpr ⟨safe, empty⟩
    have recovered := EthTransaction.recoverAddress_served exit.documented exit.handles exit.servedAs
      isProtected safe empty
    have submits := exit.submits
    rw [← exit.servedAs.input] at submits
    have accepted := Verifier.verifyOracleEvent_ok.mpr
        ⟨exit.mentions, _, t, _, looked, origin, hashes, submits,
      exit.signer, recovered, exit.trusted⟩
    exact ⟨(), t, Verifier.verifyEvent_ok.mpr ⟨_, t, exit.call, final, exit.calls,
      .inl ⟨exit.selector, exit.report, exit.decodes, accepted⟩⟩⟩

/-- The call for the request. -/
def verifyCall : VerifyCall := ⟨exit.validatorPubkey, exit.transactionHash, ofRat exit.block⟩

/-- **When an honest exit request is verified**, after any calls and whatever the caches evict. -/
theorem resolves_iff (caches : CachePolicy String) (earlier : List VerifyCall) :
    Resolves ((config.calm caches chain).verifier.verify exit.verifyCall)
      ((config.calm caches chain).verifier.afterCalls earlier
        ((config.calm caches chain).verifier.fresh ⟨0, 0⟩)) ↔ exit.Verifiable :=
  (resolves_verify exit.verifyCall (consistent_afterCalls earlier consistent_fresh)
    ((config.quiet chain).verifier.fresh ())).trans exit.resolves_quiet

end OracleExit

/-! ### The recorded exit request -/

namespace OracleFixture

/-- The event of the report, emitted at a block. -/
def reachedAt (block : Nat) : ConsensusReached :=
  ⟨block, 0x50dfbf, reportHash, 2, ORACLE_SUBMIT_REPORT_TX⟩

/-- The recorded data with the event at the block. -/
def recordingAt (block : Nat) : Recording :=
  { recording with parseConsensusReached := [((reachedAt block).log, reportHash)] }

def configAt (block : Nat) : FetcherConfig :=
  { config consensusAddress with ethers := .recorded (recordingAt block) }

/-- The answer to `eth_getLogs`. -/
def answerReached (events : List ConsensusReached) (fromBlock toBlock : String) : List Topic → Json
  | [_, .one topic] =>
    answerRange ((events.filter fun event => "0x" ++ word event.refSlot = topic).map fun event =>
      (event.block, event.log)) fromBlock toBlock
  | _ => .object [("error", .string "invalid argument")]

/-- A node that serves the two transactions, and the event. -/
def chainAt (block : Nat) : ChainData where
  el
    | .eth_getTransactionByHash transactionHash => answer transactionHash
    | .eth_getLogs fromBlock toBlock _ topics =>
      .ok (answerReached [reachedAt block] fromBlock toBlock topics)
  cl _ := unrecorded
  hash_of_served := hash_of_answer

theorem honestLogs_chainAt (block : Nat) (address : String) :
    HonestLogs (chainAt block) address [reachedAt block] where
  sorted := List.pairwise_singleton _ _
  serves refSlot first last _ _ := by
    have events : ((([reachedAt block].filter fun event =>
        "0x" ++ word event.refSlot = "0x" ++ word refSlot).map fun event => (event.block, event.log)).filter
          fun log => first ≤ log.1 ∧ log.1 ≤ last).map Prod.snd =
        (reachedIn [reachedAt block] refSlot first last).map ConsensusReached.log := by
      rw [List.filter_map, List.map_map, List.filter_filter]
      unfold reachedIn
      refine congrArg (List.map ConsensusReached.log)
        (List.filter_congr fun event _ => Bool.eq_iff_iff.mpr ?_)
      simp only [Function.comp_apply, Bool.and_eq_true, decide_eq_true_iff]
      constructor
      · rintro ⟨range, topic⟩
        exact ⟨topic_word_inj topic, range⟩
      · rintro ⟨rfl, range⟩
        exact ⟨range, rfl⟩
    refine ⟨_, rfl, ?_⟩
    show ServedLogs (answerRange _ _ _) _
    rw [answerRange_quantity, events]
    exact servedLogs_toJson _
  refuses fromBlock toBlock address topics json refused answered := by
    obtain rfl := Except.ok.inj answered
    refine ⟨[("error", .string "invalid argument")], ?_, rfl⟩
    unfold answerReached
    split
    · exact answerRange_refused refused
    · rfl

/-- The transaction that reached consensus. -/
def origin : EthTransaction where
  nonce := 0xa1
  gas := 0x1a3a4
  «to» := consensusAddress
  value := 0
  input := submitReportInput
  envelope := .eip1559 5 0x27fdeae104 0x15752a00 []
  parity := false
  r := originTx.r
  s := originTx.s

theorem safe_origin : origin.Safe := by
  refine ⟨by decide, fun chainId same => ?_, by decide⟩
  cases same
  decide

theorem servedAs_origin : origin.ServedAs originTx where
  gas := by decide +kernel
  input := rfl
  nonce := by decide +kernel
  receiver := rfl
  value := by decide +kernel
  type := by decide +kernel
  chainId chainId same := by
    cases same
    decide +kernel
  fees := ⟨by decide +kernel, by decide +kernel⟩
  v := by decide +kernel
  r := rfl
  s := rfl

theorem fields_origin : origin.fields = originFields := by
  have nonce : ofRat (0xa1 : Nat) = .int 0xa1 := ofRat_safe (by decide)
  have chainId : ofRat (5 : Nat) = .int 5 := ofRat_safe (by decide)
  unfold EthTransaction.fields originFields
  rw [show origin.nonce = 0xa1 from rfl, show origin.envelope.chainId.getD 0 = 5 from rfl, nonce,
    chainId]
  rfl

theorem signature_origin : origin.signature = originSignature := by
  have v : ofRat (0 : Nat) = .int 0 := ofRat_safe (by decide)
  unfold EthTransaction.signature originSignature
  rw [show origin.v = 0 from rfl, v]
  rfl

theorem handles_origin (block : Nat) :
    (configAt block).ethers.Handles (fun _ => ORACLE_SUBMIT_REPORT_TX) origin signer where
  serializes _ := by
    rw [fields_origin, signature_origin]
    exact ⟨serialized, recordedValue_cons, keccak256_serialized⟩
  refuses large := absurd safe_origin large
  recovers _ _ := by
    rw [fields_origin, signature_origin]
    exact ⟨unsigned, joinedSignature, serializeTransaction_unsigned, joinSignature_origin,
      recoverAddress_unsigned⟩
  distinct nonempty := absurd rfl nonempty

theorem reportHash_at (block : Nat) :
    ((configAt block).quiet (chainAt block)).verifier.reportHash report = reportHash := by
  have library : ((configAt block).quiet (chainAt block)).verifier.el.ethers = .recorded
      (recordingAt block) := rfl
  rw [Verifier.reportHash_of_library library]
  show (Ethers.recorded recording).keccak256 ((Ethers.recorded recording).encode report) = _
  rw [encode_report, keccak256_encodedReport]

/-- **The recorded exit request**, with the event of its report at some block of the frame. -/
def exitAt (reachedBlock block : Nat) (above : block - 7200 ≤ reachedBlock)
    (below : reachedBlock ≤ block) :
    OracleExit (configAt reachedBlock) (chainAt reachedBlock) where
  documented := documented_recorded _
  validatorPubkey := ORACLE_VALIDATOR_PUBKEY
  transactionHash := ORACLE_SUBMIT_REPORT_DATA_TX
  block := block
  finalTx := finalTx
  finalProtected := true
  finalJson := resultJson finalTx.toJson
  finalAnswer := answer_finalTx
  finalServed := served_toJson finalTx
  call := submitReportDataInput
  calls := by
    refine .inl ⟨?_, rfl⟩
    rw [show finalTx.input = submitReportDataInput from rfl, selectorOf_submitReportDataInput]
    decide
  selector := selectorOf_submitReportDataInput
  report := report
  decodes := decodeSubmitReportData_input
  slot := by decide
  mentions := mentionsPubkey_report
  consensusAddress := consensusAddress
  resolved := rfl
  isAddress := by
    show decide (consensusAddress.toList.length = 42) = true
    decide
  events := [reachedAt reachedBlock]
  honest := honestLogs_chainAt reachedBlock _
  parses event inside := by
    rw [List.mem_singleton.mp inside]
    exact recordedValue_cons
  reached := reachedAt reachedBlock
  first := by
    have inFrame : reachedIn [reachedAt reachedBlock] report.refSlot (block - 7200) block =
        [reachedAt reachedBlock] :=
      List.filter_cons_of_pos (decide_eq_true ⟨rfl, above, below⟩)
    rw [inFrame, reportHash_at]
    exact List.find?_cons_of_pos (decide_eq_true rfl)
  hash _ := ORACLE_SUBMIT_REPORT_TX
  origin := origin
  emitted := rfl
  originTx := originTx
  servedAs := servedAs_origin
  originJson := resultJson originTx.toJson
  originAnswer := answer_originTx
  originServed := served_toJson originTx
  submits := by
    rw [reportHash_at]
    refine .inl ⟨selectorOf_submitReportInput, ⟨0x50dfbf, reportHash, 1⟩, ?_, rfl⟩
    show recordedValue recording.decodeSubmitReport submitReportInput = _
    exact recordedValue_cons
  signer := signer
  handles := handles_origin reachedBlock
  trusted := ⟨ORACLE_ADDRESS, List.mem_singleton_self _, by decide +kernel⟩

/-- The exit request at its block. -/
theorem resolves_recorded :
    Resolves (((configAt 0x855acc).calm (.lru 50) (chainAt 0x855acc)).verifier.verify
      ⟨ORACLE_VALIDATOR_PUBKEY, ORACLE_SUBMIT_REPORT_DATA_TX, ofRat (0x855ad2 : Nat)⟩)
      (((configAt 0x855acc).calm (.lru 50) (chainAt 0x855acc)).verifier.fresh ⟨0, 0⟩) :=
  ((exitAt 0x855acc 0x855ad2 (by decide) (by decide)).resolves_iff (.lru 50) []).mpr
    ⟨by decide, rfl, rfl, rfl, safe_origin⟩

/-- **In the first blocks of a chain** nothing is verified. -/
theorem not_resolves_early : ¬ ∀ (config : FetcherConfig) (chain : ChainData)
    (exit : OracleExit config chain)
    (caches : CachePolicy String) (earlier : List VerifyCall),
    Resolves ((config.calm caches chain).verifier.verify exit.verifyCall)
      ((config.calm caches chain).verifier.afterCalls earlier
        ((config.calm caches chain).verifier.fresh ⟨0, 0⟩)) := by
  intro claim
  have resolves := claim _ _ (exitAt 6000 6001 (by decide) (by decide)) (.off String) []
  have quiet := (resolves_verify _ (consistent_afterCalls [] consistent_fresh)
    (((configAt 6000).quiet (chainAt 6000)).verifier.fresh ())).mp resolves
  exact absurd ((exitAt 6000 6001 (by decide) (by decide)).resolves_quiet.mp quiet).1.1 (by decide)

end OracleFixture

end ValidatorEjector
