/-
**What an honest execution node serves.**

The transactions and logs of the chain, and how JSON-RPC writes them. Nothing of this module is translated
from the repository: it is the world its verifier is used in.

* `Served` — a transaction as the node reports it; one without replay protection has no `chainId`.
  `txDTO_served`, `txDTO_unprotected` — what `txDTO` makes of it.
* `ServedLogs` — logs as the node reports them; `logsDTO_served` reads them.
* `EthTransaction` — a transaction of the chain: legacy, EIP-2930 or EIP-1559. `ServedAs` — its texts;
  `fields`, `signature` — what is handed to `ethers` for it.
* `ConsensusReached` — an event of the consensus contract.
* `ServesRanges` — a node that serves the events of a range; `getLogs_served` loads them.
* `HonestLogs` — a node that serves the events of the consensus contract, in order; `getLogs_honest` loads
  those for a slot, and `getLogs_bounds` says which frames are loaded at all.
-/

import Mathlib.Tactic.Lift
import ValidatorEjector.ExecutionApi.Ranges
import ValidatorEjector.ExitLogs.Flaky

namespace ValidatorEjector

open Js Hex Library Library.Program Library.Windows Validator

/-! ### Served values -/

/-- The members of a transaction that are read. -/
def Tx.texts (tx : Tx) (isProtected : Bool) : List (String × Option String) :=
  [("from", some tx.from), ("gas", some tx.gas), ("gasPrice", tx.gasPrice),
    ("maxFeePerGas", tx.maxFeePerGas), ("maxPriorityFeePerGas", tx.maxPriorityFeePerGas),
    ("hash", some tx.hash), ("input", some tx.input), ("nonce", some tx.nonce), ("to", some tx.to),
    ("value", some tx.value), ("type", some tx.type),
    ("chainId", if isProtected then some tx.chainId else none), ("v", some tx.v), ("r", some tx.r),
    ("s", some tx.s)]

/-- The answer has the transaction. What else it has does not matter. -/
def Served (json : Json) (tx : Tx) (isProtected : Bool) : Prop :=
  ∃ members result, json = .object members ∧ Members.get members "result" = some (.object result) ∧
    ∀ member ∈ tx.texts isProtected, Members.get result member.1 = member.2.map Json.string

theorem optional_text (text : Option String) :
    optional (str (text.map Json.string)) = .ok text := by
  cases text <;> rfl

theorem txDTO_served {json : Json} {tx : Tx} (served : Served json tx true) : txDTO json = .ok tx := by
  obtain ⟨members, result, rfl, found, texts⟩ := served
  simp only [Tx.texts, List.forall_mem_cons, if_true, Option.map_some] at texts
  obtain ⟨sender, gas, gasPrice, maxFee, maxPriorityFee, hash, input, nonce, receiver, value, type,
    chainId, v, r, s, _⟩ := texts
  refine obj_ok.mpr ⟨members, rfl, obj_ok.mpr ⟨result, found, ?_⟩⟩
  rw [sender, gas, gasPrice, maxFee, maxPriorityFee, hash, input, nonce, receiver, value, type,
    chainId, v,
    r, s, optional_text, optional_text, optional_text]
  rfl

/-- **A transaction without `chainId` is refused.** -/
theorem txDTO_unprotected {json : Json} {tx : Tx} (served : Served json tx false) (other : Tx) :
    txDTO json ≠ .ok other := by
  obtain ⟨members, result, rfl, found, texts⟩ := served
  simp only [Tx.texts, List.forall_mem_cons, Bool.false_eq_true, if_false, Option.map_some,
    Option.map_none] at texts
  obtain ⟨sender, gas, gasPrice, maxFee, maxPriorityFee, hash, input, nonce, receiver, value, type,
    chainId, _⟩ := texts
  intro parsed
  obtain ⟨_, same, parsed⟩ := obj_ok.mp parsed
  cases same
  rw [found] at parsed
  obtain ⟨_, same, parsed⟩ := obj_ok.mp parsed
  cases same
  rw [sender, gas, gasPrice, maxFee, maxPriorityFee, hash, input, nonce, receiver, value, type, chainId,
    optional_text, optional_text, optional_text] at parsed
  cases parsed

theorem served_toJson (tx : Tx) : Served (resultJson tx.toJson) tx true := by
  obtain ⟨sender, gas, gasPrice, maxFee, maxPriorityFee, rest⟩ := tx
  refine ⟨_, _, rfl, rfl, ?_⟩
  simp only [Tx.texts, List.forall_mem_cons, if_true, Option.map_some]
  cases gasPrice <;> cases maxFee <;> cases maxPriorityFee <;>
    exact ⟨rfl, rfl, rfl, rfl, rfl, rfl, rfl, rfl, rfl, rfl, rfl, rfl, rfl, rfl, rfl,
      fun _ inside => by cases inside⟩

/-- The value is the log as a node reports it. -/
def ServedLog (json : Json) (log : Log) : Prop :=
  ∃ members, json = .object members ∧
    Members.get members "topics" = some (.array (log.topics.map .string)) ∧
    Members.get members "data" = some (.string log.data) ∧
    Members.get members "blockNumber" = some (.string log.blockNumber) ∧
    Members.get members "transactionHash" = some (.string log.transactionHash)

/-- The answer has the logs. -/
def ServedLogs (json : Json) (logs : List Log) : Prop :=
  ∃ members elements, json = .object members ∧ Members.get members "result" = some (.array elements) ∧
    List.Forall₂ ServedLog elements logs

theorem Log.parse_served {json : Json} {log : Log} (served : ServedLog json log) :
    Log.parse json = .ok log := by
  obtain ⟨members, rfl, topics, data, blockNumber, transactionHash⟩ := served
  have texts : (log.topics.map Json.string).mapM (fun topic => str (some topic)) = .ok log.topics :=
    mapM_map_ok (g := Json.string) (fun _ => rfl) _
  have array : arr (some (.array (log.topics.map Json.string)))
      (fun topics => topics.mapM fun topic => str (some topic)) = .ok log.topics :=
    arr_ok.mpr ⟨_, rfl, texts⟩
  refine obj_ok.mpr ⟨members, rfl, ?_⟩
  rw [topics, array, data, blockNumber, transactionHash]
  rfl

theorem logsDTO_served {json : Json} {logs : List Log} (served : ServedLogs json logs) :
    logsDTO json = .ok logs := by
  obtain ⟨members, elements, rfl, found, all⟩ := served
  refine obj_ok.mpr ⟨members, rfl, ?_⟩
  rw [found]
  refine arr_ok.mpr ⟨elements, rfl, ?_⟩
  clear found
  induction all with
  | nil => rfl
  | cons here _ ih =>
    rw [List.mapM_cons, Log.parse_served here, ih]
    rfl

theorem servedLogs_toJson (logs : List Log) :
    ServedLogs (resultJson (.array (logs.map Log.toJson))) logs := by
  refine ⟨_, logs.map Log.toJson, rfl, rfl, ?_⟩
  rw [List.forall₂_map_left_iff]
  exact List.forall₂_same.mpr fun log _ => ⟨_, rfl, rfl, rfl, rfl, rfl⟩

/-- An answer without a result has no logs. -/
theorem logsDTO_refused {members : Members} (refused : Members.get members "result" = none)
    (logs : List Log) : logsDTO (.object members) ≠ .ok logs := by
  intro parsed
  obtain ⟨_, same, parsed⟩ := obj_ok.mp parsed
  cases same
  rw [refused] at parsed
  obtain ⟨_, other, _⟩ := arr_ok.mp parsed
  cases other

/-! ### Transactions of the chain -/

/-- The storage slots of an address. -/
abbrev AccessList := List (String × List String)

/-- The fields a transaction has by its type. A legacy transaction may have no chain id. -/
inductive Envelope
  | legacy (chainId : Option Nat) (gasPrice : Nat)
  | eip2930 (chainId gasPrice : Nat) (accessList : AccessList)
  | eip1559 (chainId maxFeePerGas maxPriorityFeePerGas : Nat) (accessList : AccessList)
  deriving DecidableEq

namespace Envelope

/-- The transaction type. -/
def type : Envelope → Nat
  | legacy _ _ => 0
  | eip2930 _ _ _ => 1
  | eip1559 _ _ _ _ => 2

def chainId : Envelope → Option Nat
  | legacy chainId _ => chainId
  | eip2930 chainId _ _ => some chainId
  | eip1559 chainId _ _ _ => some chainId

def accessList : Envelope → AccessList
  | legacy _ _ => []
  | eip2930 _ _ accessList => accessList
  | eip1559 _ _ _ accessList => accessList

/-- The envelope with an empty access list. -/
def withoutAccessList : Envelope → Envelope
  | legacy chainId gasPrice => legacy chainId gasPrice
  | eip2930 chainId gasPrice _ => eip2930 chainId gasPrice []
  | eip1559 chainId maxFeePerGas maxPriorityFeePerGas _ =>
    eip1559 chainId maxFeePerGas maxPriorityFeePerGas []

theorem withoutAccessList_of_empty {envelope : Envelope} (empty : envelope.accessList = []) :
    envelope.withoutAccessList = envelope := by
  cases envelope <;> first | rfl | (cases empty; rfl)

/-- The fee fields, as `ethers` takes them. -/
def fee : Envelope → Fee
  | legacy _ gasPrice => .gasPrice gasPrice
  | eip2930 _ gasPrice _ => .gasPrice gasPrice
  | eip1559 _ maxFeePerGas maxPriorityFeePerGas _ => .maxFee maxFeePerGas maxPriorityFeePerGas

/-- It has one price, not the two fees of EIP-1559. -/
def hasGasPrice : Envelope → Bool
  | eip1559 _ _ _ _ => false
  | _ => true

/-- The `v` of a signature: the parity of a typed transaction, with the chain id in it for a legacy one. -/
def v (parity : Bool) : Envelope → Nat
  | legacy none _ => 27 + parity.toNat
  | legacy (some chainId) _ => 35 + 2 * chainId + parity.toNat
  | _ => parity.toNat

end Envelope

/-- **A signed transaction of the chain.** -/
structure EthTransaction where
  nonce : Nat
  gas : Nat
  «to» : String
  value : Nat
  input : String
  envelope : Envelope
  parity : Bool
  r : String
  s : String
  deriving DecidableEq

namespace EthTransaction

variable (t : EthTransaction)

/-- The transaction with an empty access list. -/
def withoutAccessList : EthTransaction := { t with envelope := t.envelope.withoutAccessList }

/-- The `v` of its signature. -/
def v : Nat := t.envelope.v t.parity

/-- The fee texts of a served transaction. With the two fees of EIP-1559 the node may give the price paid. -/
def FeesServedAs (tx : Tx) : Envelope → Prop
  | .legacy _ gasPrice => tx.gasPrice = some (quantity gasPrice) ∧ tx.maxFeePerGas = none ∧
      tx.maxPriorityFeePerGas = none
  | .eip2930 _ gasPrice _ => tx.gasPrice = some (quantity gasPrice) ∧ tx.maxFeePerGas = none ∧
      tx.maxPriorityFeePerGas = none
  | .eip1559 _ maxFeePerGas maxPriorityFeePerGas _ => tx.maxFeePerGas = some (quantity maxFeePerGas) ∧
      tx.maxPriorityFeePerGas = some (quantity maxPriorityFeePerGas)

/-- **The texts of the transaction, as a node serves them.** -/
structure ServedAs (tx : Tx) : Prop where
  gas : tx.gas = quantity t.gas
  input : tx.input = t.input
  nonce : tx.nonce = quantity t.nonce
  receiver : tx.to = t.to
  value : tx.value = quantity t.value
  type : tx.type = quantity t.envelope.type
  chainId : ∀ chainId, t.envelope.chainId = some chainId → tx.chainId = quantity chainId
  fees : FeesServedAs tx t.envelope
  v : tx.v = quantity t.v
  r : tx.r = t.r
  s : tx.s = t.s

/-- The fields handed to `serializeTransaction`: no access list, and numbers rounded to doubles. -/
def fields : TransactionFields where
  gasLimit := t.gas
  data := t.input
  nonce := ofRat t.nonce
  «to» := t.to
  value := t.value
  type := .int t.envelope.type
  chainId := ofRat (t.envelope.chainId.getD 0 : Nat)
  fee := t.envelope.fee

def signature : Signature := ⟨t.r, t.s, ofRat t.v⟩

/-- Its numbers are safe integers. -/
def Safe : Prop :=
  t.nonce < MAX_SAFE ∧ (∀ chainId, t.envelope.chainId = some chainId → chainId < MAX_SAFE) ∧
    t.v < MAX_SAFE

variable {t} {tx : Tx} {ethers : Ethers}

theorem missing_quantity (n : Nat) : missing (some (quantity n)) = false := by
  unfold missing
  refine decide_eq_false fun empty => ?_
  have lists := congrArg String.toList empty
  rw [Option.getD_some, toList_quantity] at lists
  cases lists

theorem type_le_two (envelope : Envelope) : envelope.type ≤ 2 := by
  unfold Envelope.type
  split <;> decide

theorem ofRat_type (envelope : Envelope) : ofRat (envelope.type : ℚ) = .int envelope.type := by
  have small := type_le_two envelope
  exact ofRat_intCast (by omega)

/-- A transaction is legacy for the code exactly when it has one price. -/
theorem isLegacyTx_served (served : t.ServedAs tx) : tx.isLegacyTx = t.envelope.hasGasPrice := by
  have type : Number tx.type = .int t.envelope.type := by
    rw [served.type, Number_quantity, ofRat_type]
  have fees := served.fees
  unfold Tx.isLegacyTx
  rw [type]
  cases envelope : t.envelope with
  | legacy chainId gasPrice => rfl
  | eip2930 chainId gasPrice accessList =>
    rw [envelope] at fees
    rw [fees.2.1, fees.2.2]
    rfl
  | eip1559 chainId maxFeePerGas maxPriorityFeePerGas accessList =>
    rw [envelope] at fees
    rw [fees.1, missing_quantity]
    rfl

/-- **A served transaction is prepared as its fields**, whatever its type. -/
theorem prepareTransactionData_served (bigNumbers : ethers.bigNumberFrom = Hex.bigNumberFrom)
    (served : t.ServedAs tx) {chainId : Nat} (isProtected : t.envelope.chainId = some chainId) :
    prepareTransactionData ethers tx = .ok t.fields := by
  have gas : ethers.bigNumberFrom (.text tx.gas) = .ok (t.gas : Int) := by
    rw [bigNumbers, served.gas, bigNumberFrom_quantity]
  have value : ethers.bigNumberFrom (.text tx.value) = .ok (t.value : Int) := by
    rw [bigNumbers, served.value, bigNumberFrom_quantity]
  have price {n : Nat} {text : Option String} (given : text = some (quantity n)) :
      ethers.bigNumberFrom (.text (orElse text "0")) = .ok (n : Int) := by
    unfold orElse
    rw [bigNumbers, given, missing_quantity]
    exact bigNumberFrom_quantity n
  have numbers : parseInt tx.nonce = ofRat t.nonce ∧ parseInt tx.type = .int t.envelope.type ∧
      parseInt tx.chainId = ofRat (t.envelope.chainId.getD 0 : Nat) := by
    rw [served.nonce, served.type, served.chainId chainId isProtected, isProtected, parseInt_quantity,
      parseInt_quantity, parseInt_quantity, ofRat_type]
    exact ⟨rfl, rfl, rfl⟩
  have isLegacy := isLegacyTx_served served
  have fees := served.fees
  have prepared : prepareTransactionData ethers tx = .ok
      ⟨t.gas, tx.input, parseInt tx.nonce, tx.to, t.value,
      parseInt tx.type, parseInt tx.chainId, t.envelope.fee⟩ := by
    cases envelope : t.envelope with
    | legacy _ gasPrice =>
      rw [envelope] at isLegacy fees
      exact prepareTransactionData_legacy isLegacy (by rw [fees.1, missing_quantity]) gas value
        (price fees.1)
    | eip2930 _ gasPrice _ =>
      rw [envelope] at isLegacy fees
      exact prepareTransactionData_legacy isLegacy (by rw [fees.1, missing_quantity]) gas value
        (price fees.1)
    | eip1559 _ maxFeePerGas maxPriorityFeePerGas _ =>
      rw [envelope] at isLegacy fees
      exact prepareTransactionData_modern isLegacy gas value (price fees.1) (price fees.2)
  rw [prepared, numbers.1, numbers.2.1, numbers.2.2, served.input, served.receiver]
  rfl

end EthTransaction

/-! ### The library -/

/-- **What `ethers` does with the fields of a transaction**, where `hash` gives the hashes of the chain. It
serializes the transaction that has these fields and no access list, unless a number is no safe integer; two
transactions that differ in their access lists have different hashes. -/
structure Ethers.Handles (ethers : Ethers) (hash : EthTransaction → String) (t : EthTransaction)
    (signer : String) : Prop where
  serializes : t.Safe → ∃ encoded, ethers.serializeTransaction t.fields (some t.signature) =
    .ok encoded ∧
    ethers.keccak256 encoded = hash t.withoutAccessList
  refuses : ¬ t.Safe → ∃ e, ethers.serializeTransaction t.fields (some t.signature) = .error e
  recovers : t.Safe → t.envelope.accessList = [] → ∃ encoded joined,
    ethers.serializeTransaction t.fields none = .ok encoded ∧ ethers.joinSignature t.signature =
      .ok joined ∧
    ethers.recoverAddress (ethers.keccak256 encoded) joined = .ok signer
  distinct : t.envelope.accessList ≠ [] →
    toLowerCase (hash t.withoutAccessList) ≠ toLowerCase (hash t)

namespace EthTransaction

variable {t : EthTransaction} {tx : Tx} {ethers : Ethers} {hash : EthTransaction → String}
  {signer : String} {chainId : Nat}

theorem withoutAccessList_of_empty (empty : t.envelope.accessList = []) : t.withoutAccessList = t := by
  unfold withoutAccessList
  rw [Envelope.withoutAccessList_of_empty empty]

/-- **When the code recomputes the hash of the transaction.** -/
theorem hashesTo_iff (documented : ethers.Documented) (handles : ethers.Handles hash t signer)
    (served : t.ServedAs tx) (isProtected : t.envelope.chainId = some chainId) :
    tx.HashesTo ethers (hash t) ↔ t.Safe ∧ t.envelope.accessList = [] := by
  have prepared := prepareTransactionData_served documented.bigNumberFrom served isProtected
  have signature : (⟨tx.r, tx.s, Number tx.v⟩ : Signature) = t.signature := by
    rw [served.r, served.s, served.v, Number_quantity]
    rfl
  have computes (computed : String) : computedHash ethers tx = .ok computed ↔ ∃ encoded,
      ethers.serializeTransaction t.fields (some t.signature) = .ok encoded ∧
        ethers.keccak256 encoded = computed := by
    unfold computedHash
    rw [prepared, signature, except_bind_ok]
    constructor
    · rintro ⟨_, ⟨⟩, run⟩
      obtain ⟨encoded, serialized, same⟩ := except_bind_ok.mp run
      exact ⟨encoded, serialized, Except.ok.inj same⟩
    · rintro ⟨encoded, serialized, rfl⟩
      exact ⟨t.fields, rfl, except_bind_ok.mpr ⟨encoded, serialized, rfl⟩⟩
  constructor
  · rintro ⟨computed, run, same⟩
    obtain ⟨encoded, serialized, hashes⟩ := (computes computed).mp run
    have safe : t.Safe := by
      by_contra large
      obtain ⟨e, refused⟩ := handles.refuses large
      rw [refused] at serialized
      cases serialized
    refine ⟨safe, by_contra fun nonempty => handles.distinct nonempty ?_⟩
    obtain ⟨encoded', serialized', bare⟩ := handles.serializes safe
    rw [serialized] at serialized'
    cases serialized'
    rw [← bare, hashes, same]
  · rintro ⟨safe, empty⟩
    obtain ⟨encoded, serialized, bare⟩ := handles.serializes safe
    rw [withoutAccessList_of_empty empty] at bare
    exact ⟨hash t, (computes _).mpr ⟨encoded, serialized, bare⟩, rfl⟩

/-- The signer is recovered. -/
theorem recoverAddress_served (documented : ethers.Documented)
    (handles : ethers.Handles hash t signer) (served : t.ServedAs tx)
    (isProtected : t.envelope.chainId = some chainId) (safe : t.Safe)
    (empty : t.envelope.accessList = []) : recoverAddress ethers tx = .ok signer := by
  have prepared := prepareTransactionData_served documented.bigNumberFrom served isProtected
  have signature : (⟨tx.r, tx.s, parseInt tx.v⟩ : Signature) = t.signature := by
    rw [served.r, served.s, served.v, parseInt_quantity]
    rfl
  obtain ⟨encoded, joined, serialized, joins, recovered⟩ := handles.recovers safe empty
  unfold recoverAddress
  rw [signature, joins, prepared]
  exact except_bind_ok.mpr ⟨joined, rfl, except_bind_ok.mpr ⟨t.fields, rfl,
    except_bind_ok.mpr ⟨encoded, serialized, recovered⟩⟩⟩

end EthTransaction

/-! ### The consensus contract -/

/-- An event `ConsensusReached`, and where it was emitted. -/
structure ConsensusReached where
  block : Nat
  refSlot : Nat
  report : String
  support : Nat
  transactionHash : String
  deriving DecidableEq

/-- Its log. -/
def ConsensusReached.log (event : ConsensusReached) : Log where
  topics := [consensusReachedTopic, "0x" ++ word event.refSlot]
  data := event.report ++ word event.support
  blockNumber := quantity event.block
  transactionHash := event.transactionHash

/-- The events for a slot in a range of blocks. -/
def reachedIn (events : List ConsensusReached) (refSlot first last : Nat) : List ConsensusReached :=
  events.filter fun event => event.refSlot = refSlot ∧ first ≤ event.block ∧ event.block ≤ last

/-- **A node that serves the events of the contract**, by slot and range. What is no quantity, it refuses. -/
structure HonestLogs (chain : ChainData) (consensusAddress : String) (events : List ConsensusReached) :
    Prop where
  sorted : events.Pairwise fun a b => a.block ≤ b.block
  serves : ∀ refSlot first last, refSlot < 2 ^ 256 → first ≤ last → ∃ json,
    chain.el (.eth_getLogs (quantity first) (quantity last) consensusAddress
      [.one consensusReachedTopic, .one ("0x" ++ word refSlot)]) = .ok json ∧
    ServedLogs json ((reachedIn events refSlot first last).map ConsensusReached.log)
  refuses : ∀ fromBlock toBlock address topics json, quantity? fromBlock = none →
    chain.el (.eth_getLogs fromBlock toBlock address topics) = .ok json →
    ∃ members, json = .object members ∧ Members.get members "result" = none

/-! ### Loading the events -/

section Ranges

variable {ρ α : Type} {el : ExecutionApi ρ} {address : String} {topics : List Topic}
  {events : List α} {place : α → Nat} {log : α → Log}

/-- The events of a range of blocks. -/
def between (place : α → Nat) (events : List α) (first last : Nat) : List α :=
  events.filter fun event => first ≤ place event ∧ place event ≤ last

/-- A node that answers a range of blocks with the logs of its events. -/
def ServesRanges (el : ExecutionApi ρ) (address : String) (topics : List Topic) (events : List α)
    (place : α → Nat) (log : α → Log) : Prop :=
  ∀ first last s, first ≤ last → ∃ json s',
    el.elRequest (.eth_getLogs (quantity first) (quantity last) address topics) s = .ok json s' ∧
      ServedLogs json ((between place events first last).map log)

theorem quantity_block (documented : el.ethers.Documented) {n : Nat} (positive : 0 < n)
    (safe : n < MAX_SAFE) :
    el.quantity (.int n) = .ok (quantity n) := by
  refine (ExecutionApi.quantity_ok documented).mpr ⟨n, rfl, by rwa [Int.natAbs_natCast], ?_⟩
  rw [hexStripZeros_toHexString positive]

/-- **A window of blocks is one request**, answered with its events. -/
theorem getLogsBetween_served (documented : el.ethers.Documented)
    (serves : ServesRanges el address topics events place log) {w : Window} (positive : 0 < w.first)
    (ordered : w.first ≤ w.last) (safe : w.last < MAX_SAFE) (s : ρ) : ∃ s',
    el.getLogsBetween address topics (.int w.first, .int w.last) s
      = .ok ((events.filter fun event => w.Contains (place event)).map log) s' := by
  obtain ⟨first, last⟩ := w
  dsimp only at positive ordered safe ⊢
  lift first to Nat using positive.le
  lift last to Nat using by omega
  have lower := quantity_block documented (n := first) (by omega) (by omega)
  have upper := quantity_block documented (n := last) (by omega) (by omega)
  obtain ⟨json, s', answered, served⟩ := serves first last s (by omega)
  have same : (events.filter fun event => Window.Contains ⟨first, last⟩ (place event))
      = between place events first last := by
    unfold between
    refine List.filter_congr fun event _ => Bool.eq_iff_iff.mpr ?_
    simp only [decide_eq_true_iff, Window.Contains, Nat.cast_le]
  rw [same]
  exact ⟨s', bind_ok.mpr ⟨_, s, ofResult_ok.mpr ⟨lower, rfl⟩,
    bind_ok.mpr ⟨_, s, ofResult_ok.mpr ⟨upper, rfl⟩,
    bind_ok.mpr ⟨json, s', answered, ofResult_ok.mpr ⟨logsDTO_served served, rfl⟩⟩⟩⟩⟩

/-- **A range of blocks** that does not start at the first one. -/
theorem getLogs_served (documented : el.ethers.Documented)
    (isAddress : el.ethers.isAddress address = true)
    (sorted : events.Pairwise fun a b => place a ≤ place b)
    (serves : ServesRanges el address topics events place log) {first last : Nat}
    (positive : 0 < first) (ordered : first ≤ last) (safe : last < MAX_SAFE) (s : ρ) : ∃ s',
    el.getLogs (.int first) (.int last) address topics s = .ok
      ((between place events first last).map log) s' := by
  have tiles := windows_tiles el.LOAD_LOGS_STEP first last
  have placed : events.Pairwise fun a b => (place a : Int) ≤ place b :=
    sorted.imp fun order => by exact_mod_cast order
  have all : between place events first last = (windows el.LOAD_LOGS_STEP first last).flatMap
      fun w => events.filter fun event => w.Contains (place event) := by
    rw [tiles.flatMap_filter placed]
    unfold between
    refine List.filter_congr fun event _ => Bool.eq_iff_iff.mpr ?_
    simp only [decide_eq_true_iff, Nat.cast_le]
  have turn : ∀ w ∈ windows el.LOAD_LOGS_STEP first last, ∀ s, ∃ s',
      el.getLogsBetween address topics (.int w.first, .int w.last) s
        = .ok ((events.filter fun event => w.Contains (place event)).map log) s' := fun w inside => by
    obtain ⟨above, nonempty, below⟩ := tiles.bounds w inside
    exact getLogsBetween_served documented serves (by omega) nonempty (by omega)
  unfold ExecutionApi.getLogs
  rw [if_neg (by simp), if_neg (by simp), if_neg (by simpa using ordered), if_neg (by simp [isAddress]),
    turns_int, all, List.map_flatMap]
  exact collect_of_each turn s

/-- What is loaded ends at a safe integer, and the first block has been asked for. -/
theorem getLogs_asked (documented : el.ethers.Documented) {first last : Nat} (ordered : first ≤ last)
    {s s' : ρ} {logs : List Log}
    (ran : el.getLogs (.int first) (.int last) address topics s = .ok logs s') :
    last < MAX_SAFE ∧ ∃ toBlock t json t' found,
      el.elRequest (.eth_getLogs (hexStripZeros (toHexString first)) toBlock address topics) t =
        .ok json t' ∧
        logsDTO json = .ok found := by
  have order : (first : Int) ≤ last := by exact_mod_cast ordered
  unfold ExecutionApi.getLogs at ran
  obtain ⟨_, ran⟩ := guard_ok.mp ran
  obtain ⟨_, ran⟩ := guard_ok.mp ran
  obtain ⟨_, ran⟩ := guard_ok.mp ran
  obtain ⟨_, ran⟩ := guard_ok.mp ran
  rw [turns_int] at ran
  have tiles := windows_tiles el.LOAD_LOGS_STEP first last
  have turn (w : Window) (inside : w ∈ windows el.LOAD_LOGS_STEP first last) : ∃ t found t',
      el.getLogsBetween address topics (.int w.first, .int w.last) t = .ok found t' :=
    resolves_of_collect ran _ (List.mem_map_of_mem
      (f := fun w : Window => (JsNumber.int w.first, JsNumber.int w.last))
      inside)
  constructor
  · obtain ⟨w, inside, contains⟩ := tiles.exists_window order le_rfl
    obtain ⟨t, found, t', between⟩ := turn w inside
    obtain ⟨_, _, _, between⟩ := bind_ok.mp between
    obtain ⟨toBlock, _, upper, _⟩ := bind_ok.mp between
    obtain ⟨n, same, safe, _⟩ := (ExecutionApi.quantity_ok documented).mp (ofResult_ok.mp upper).1
    have last_eq : w.last = last := le_antisymm (tiles.bounds w inside).2.2 contains.2
    rw [last_eq] at same
    cases same
    rwa [Int.natAbs_natCast] at safe
  · obtain ⟨w, inside, contains⟩ := tiles.exists_window le_rfl order
    obtain ⟨t, found, t', between⟩ := turn w inside
    obtain ⟨fromBlock, _, lower, between⟩ := bind_ok.mp between
    obtain ⟨toBlock, _, _, between⟩ := bind_ok.mp between
    obtain ⟨json, t'', answered, parsed⟩ := bind_ok.mp between
    obtain ⟨n, same, _, rfl⟩ := (ExecutionApi.quantity_ok documented).mp (ofResult_ok.mp lower).1
    have first_eq : w.first = first := le_antisymm contains.1 (tiles.bounds w inside).1
    rw [first_eq] at same
    cases same
    exact ⟨toBlock, _, json, t'', found, answered, (ofResult_ok.mp parsed).1⟩

end Ranges

section Logs

variable {config : FetcherConfig} {chain : ChainData} {consensusAddress : String}
  {events : List ConsensusReached} {refSlot : Nat}

/-- The execution API over a node that never fails. -/
abbrev quietApi (config : FetcherConfig) (chain : ChainData) : ExecutionApi Unit :=
  config.executionApi fun r => ofResult (chain.el r)

/-- The topics of the events for a slot. -/
def reachedTopics (refSlot : Nat) : List Topic :=
  [.one consensusReachedTopic, .one ("0x" ++ word refSlot)]

theorem between_reached (first last : Nat) : between ConsensusReached.block
    (events.filter (·.refSlot = refSlot))
    first last = reachedIn events refSlot first last := by
  unfold between reachedIn
  rw [List.filter_filter]
  refine List.filter_congr fun event _ => Bool.eq_iff_iff.mpr ?_
  simp only [Bool.and_eq_true, decide_eq_true_iff]
  exact and_comm

/-- **The events for a slot** in a range that does not start at the first block. -/
theorem getLogs_honest (documented : config.ethers.Documented)
    (isAddress : config.ethers.isAddress consensusAddress = true)
    (honest : HonestLogs chain consensusAddress events) (slot : refSlot < 2 ^ 256) {first last : Nat}
    (positive : 0 < first) (ordered : first ≤ last) (safe : last < MAX_SAFE) (s : Unit) :
    (quietApi config chain).getLogs (.int first) (.int last) consensusAddress (reachedTopics refSlot) s
      = .ok ((reachedIn events refSlot first last).map ConsensusReached.log) s := by
  have serves : ServesRanges (quietApi config chain) consensusAddress (reachedTopics refSlot)
      (events.filter (·.refSlot = refSlot)) ConsensusReached.block ConsensusReached.log := by
    intro first last s ordered
    obtain ⟨json, answered, served⟩ := honest.serves refSlot first last slot ordered
    rw [between_reached]
    exact ⟨json, s, ofResult_ok.mpr ⟨answered, rfl⟩, served⟩
  have library : (quietApi config chain).ethers.Documented := documented
  obtain ⟨s', ran⟩ := getLogs_served library isAddress
      (honest.sorted.filter _) serves positive ordered safe s
  rw [← between_reached]
  exact ran

/-- The last turn of a loop ends where the range does, if the range is one of integers or unbounded. -/
theorem exists_last_turn {step : ℕ+} {z : Int} {k : Int}
    (nonneg : ¬ ((ofRat z).sub k).lt (.int 0) = true)
    (ordered : ¬ (ofRat z).lt ((ofRat z).sub k) = true) :
    ∃ bounds ∈ turns step ((ofRat z).sub k) (ofRat z), bounds.2 = ofRat z := by
  rcases ofRat_whole z with ⟨last, finite⟩ | ⟨negative, infinite⟩
  · have start : (ofRat z).sub k = ofRat ((last - k : Int) : ℚ) := by
      rw [finite, Int.cast_sub]
      rfl
    rw [start] at nonneg ordered ⊢
    rw [finite] at ordered ⊢
    rcases ofRat_whole (last - k) with ⟨first, finite'⟩ | ⟨negative, infinite'⟩
    · rw [finite', JsNumber.lt_int, decide_eq_true_iff, not_lt] at ordered
      have tiles := windows_tiles step first last
      obtain ⟨w, inside, contains⟩ := tiles.exists_window ordered le_rfl
      have below := (tiles.bounds w inside).2.2
      rw [finite', turns_int]
      refine ⟨(.int w.first, .int w.last), List.mem_map_of_mem inside, ?_⟩
      rw [le_antisymm below contains.2]
    · rw [infinite'] at nonneg ordered
      cases negative with
      | true => exact absurd rfl nonneg
      | false => exact absurd rfl ordered
  · have start : (ofRat z).sub k = .infinity negative := by
      rw [infinite]
      rfl
    rw [start] at nonneg ⊢
    cases negative with
    | true => exact absurd rfl nonneg
    | false =>
      rw [infinite]
      exact ⟨_, List.mem_singleton_self _, rfl⟩

/-- **A range that is loaded lies above the first block.** -/
theorem getLogs_bounds (documented : config.ethers.Documented)
    (honest : HonestLogs chain consensusAddress events) {block : Nat} {address : String}
    {topics : List Topic} {t t' : Unit} {logs : List Log}
    (ran : (quietApi config chain).getLogs ((ofRat block).sub ORACLE_FRAME_BLOCKS) (ofRat block) address
      topics t = .ok logs t') : 7200 < block ∧ block < MAX_SAFE := by
  have whole := ran
  unfold ExecutionApi.getLogs at ran
  obtain ⟨nonneg, ran⟩ := guard_ok.mp ran
  obtain ⟨_, ran⟩ := guard_ok.mp ran
  obtain ⟨ordered, ran⟩ := guard_ok.mp ran
  obtain ⟨_, ran⟩ := guard_ok.mp ran
  have loaded := resolves_of_collect ran
  have safe : block < MAX_SAFE := by
    have number : ofRat ((block : Int) : ℚ) = ofRat block := by rw [Int.cast_natCast]
    rw [← number] at nonneg ordered
    obtain ⟨bounds, inside, last⟩ := exists_last_turn nonneg ordered
    rw [number] at inside last
    obtain ⟨s, logs, s', between⟩ := loaded bounds inside
    obtain ⟨_, _, _, between⟩ := bind_ok.mp between
    obtain ⟨toBlock, _, upper, _⟩ := bind_ok.mp between
    obtain ⟨n, number, _⟩ := except_bind_ok.mp (ofResult_ok.mp upper).1
    rw [last] at number
    have number : config.ethers.bigNumberFrom (.number (ofRat block)) = .ok n := number
    rw [documented.bigNumberFrom] at number
    obtain ⟨rounded, small⟩ := bigNumberFrom_number.mp number
    exact safe_of_ofRat rounded small
  have limit : MAX_SAFE = 2 ^ 53 - 1 := rfl
  have first : (ofRat block).sub ORACLE_FRAME_BLOCKS = .int (block - 7200) := by
    rw [ofRat_safe safe]
    exact JsNumber.sub_int (by unfold ORACLE_FRAME_BLOCKS; omega)
  rw [first, JsNumber.lt_int, decide_eq_true_iff] at nonneg
  have above : 7200 ≤ block := by omega
  obtain ⟨offset, rfl⟩ := Nat.exists_eq_add_of_le' above
  rw [first, ofRat_safe safe, show ((offset + 7200 : Nat) : Int) - 7200 = offset by omega] at whole
  have library : (quietApi config chain).ethers.Documented := documented
  obtain ⟨_, toBlock, t, json, t', found, answered, parsed⟩ := getLogs_asked library
    (Nat.le_add_right offset 7200) whole
  refine ⟨?_, safe⟩
  -- a frame that starts at block zero is asked for with no quantity
  rcases Nat.eq_zero_or_pos offset with rfl | positive
  · rw [Int.natCast_zero, hexStripZeros_zero] at answered
    obtain ⟨members, rfl, refused⟩ := honest.refuses _ _ _ _ _ rfl
      (ofResult_ok.mp answered).1
    exact absurd parsed (logsDTO_refused refused found)
  · omega

end Logs

end ValidatorEjector
