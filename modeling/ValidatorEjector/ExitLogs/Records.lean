/-
**Exit requests as packed records.**

The data of a report or a request is a sequence of records of fixed width, in hexadecimal digits. A pubkey is
looked for in its text with `includes`, which knows nothing of records.

* `DataFormat`, `ExitRequest`, `packed` — the records, and their text; `ExitRequest.key`, the pubkey of one.
* `Authenticates` — the data that a verification compares a pubkey with, once its other checks have passed;
  `resolves_verifyEvent_iff` — the comparison is the last check.
* `StandsAsKey` — the pubkey is `0x` and digits that stand where a record has its pubkey; `standsAsKey_iff`.
* **`acceptsKey_iff`** — an accepted pubkey is one of a record, if its digits stand nowhere else.
* `not_acceptsKey` — digits that start inside of another field are accepted.
-/

import ValidatorEjector.Library.Packed
import ValidatorEjector.RecordedOracle

namespace ValidatorEjector

open Js Library Library.Packed Library.Program

/-! ### Records -/

/-- The formats of the data: `1`, and `2` with the index of the key. -/
inductive DataFormat
  | LIST
  | LIST_WITH_KEY_INDEX
  deriving DecidableEq

namespace DataFormat

/-- The bytes of the key index. -/
def keyIndexBytes : DataFormat → Nat
  | LIST => 0
  | LIST_WITH_KEY_INDEX => 8

/-- The bytes of a record before its pubkey. -/
def keyOffset (format : DataFormat) : Nat := 3 + 5 + 8 + format.keyIndexBytes

/-- The bytes of a record. -/
def width (format : DataFormat) : Nat := format.keyOffset + 48

end DataFormat

/-- One exit request. -/
structure ExitRequest (format : DataFormat) where
  moduleId : Vector UInt8 3
  nodeOpId : Vector UInt8 5
  validatorIndex : Vector UInt8 8
  keyIndex : Vector UInt8 format.keyIndexBytes
  pubkey : Vector UInt8 48

/-- The two digits of a byte. -/
def byteDigits (byte : UInt8) : List Char := [(byte.toNat / 16).digitChar, (byte.toNat % 16).digitChar]

/-- Bytes in hexadecimal digits. -/
def hexText (bytes : List UInt8) : List Char := bytes.flatMap byteDigits

theorem length_hexText (bytes : List UInt8) : (hexText bytes).length = bytes.length * 2 :=
  length_pack (show FixedWidth byteDigits 2 from fun _ => rfl) bytes

theorem hexText_append (bytes others : List UInt8) :
    hexText (bytes ++ others) = hexText bytes ++ hexText others := List.flatMap_append

namespace ExitRequest

variable {format : DataFormat}

/-- The fields before the pubkey. -/
def head (request : ExitRequest format) : List UInt8 :=
  request.moduleId.toList ++ request.nodeOpId.toList ++ request.validatorIndex.toList ++
    request.keyIndex.toList

/-- The text of a record. -/
def text (request : ExitRequest format) : List Char := hexText (request.head ++ request.pubkey.toList)

/-- The pubkey as a text. -/
def key (request : ExitRequest format) : String :=
  String.ofList ('0' :: 'x' :: hexText request.pubkey.toList)

theorem length_head (request : ExitRequest format) : request.head.length = format.keyOffset := by
  simp only [head, DataFormat.keyOffset, List.length_append, Vector.length_toList]

theorem length_pubkey (request : ExitRequest format) : (hexText request.pubkey.toList).length = 96 := by
  rw [length_hexText, Vector.length_toList]

theorem text_fixedWidth : FixedWidth (@text format) (format.width * 2) := by
  intro request
  rw [text, length_hexText, List.length_append, length_head, Vector.length_toList]
  rfl

/-- The pubkey is the end of a record. -/
theorem text_field (request : ExitRequest format) :
    (request.text.drop (format.keyOffset * 2)).take 96 = hexText request.pubkey.toList := by
  have front : (hexText request.head).length = format.keyOffset * 2 := by
    rw [length_hexText, length_head]
  rw [text, hexText_append, ← front, List.drop_left]
  exact List.take_of_length_le request.length_pubkey.le

end ExitRequest

/-- The data, as a text. -/
def packed {format : DataFormat} (requests : List (ExitRequest format)) : String :=
  String.ofList ('0' :: 'x' :: pack ExitRequest.text requests)

/-! ### Where a pubkey stands -/

/-- The pubkey is `0x` and 96 digits that stand in the data at the place of a record's pubkey. -/
def StandsAsKey (format : DataFormat) (data validatorPubkey : String) : Prop :=
  ∃ digits k, validatorPubkey.toList = '0' :: 'x' :: digits ∧ digits.length = 96 ∧
    (data.toList.drop (2 + (k * (format.width * 2) + format.keyOffset * 2))).take 96 = digits

/-- **What stands at such a place is the pubkey of a record.** -/
theorem standsAsKey_iff {format : DataFormat} {requests : List (ExitRequest format)} {validatorPubkey : String} :
    StandsAsKey format (packed requests) validatorPubkey ↔
      ∃ request ∈ requests, validatorPubkey = request.key := by
  have fits : format.keyOffset * 2 + 96 ≤ format.width * 2 := by
    rw [DataFormat.width]
    omega
  have field {digits : List Char} (length : digits.length = 96) :
      (∃ k, ((packed requests).toList.drop (2 + (k * (format.width * 2) + format.keyOffset * 2))).take 96 =
        digits) ↔ ∃ request ∈ requests, hexText request.pubkey.toList = digits := by
    have filled : digits ≠ [] := List.ne_nil_of_length_pos (by omega)
    have short : format.keyOffset * 2 + digits.length ≤ format.width * 2 := by rwa [length]
    have places : (∃ k, ((pack ExitRequest.text requests).drop (k * (format.width * 2) +
        format.keyOffset * 2)).take digits.length = digits) ↔ ∃ request ∈ requests,
          (request.text.drop (format.keyOffset * 2)).take digits.length = digits :=
      exists_field_iff ExitRequest.text_fixedWidth filled short
    rw [length] at places
    simp only [ExitRequest.text_field] at places
    rw [← places]
    refine exists_congr fun k => ?_
    rw [packed, String.toList_ofList, ← List.drop_drop]
    rfl
  constructor
  · rintro ⟨digits, k, form, length, stands⟩
    obtain ⟨request, member, same⟩ := (field length).mp ⟨k, stands⟩
    refine ⟨request, member, String.toList_injective ?_⟩
    rw [form, ExitRequest.key, String.toList_ofList, same]
  · rintro ⟨request, member, rfl⟩
    have length := request.length_pubkey
    obtain ⟨k, stands⟩ := (field length).mpr ⟨request, member, rfl⟩
    exact ⟨_, k, String.toList_ofList, length, stands⟩

/-! ### The data of an event -/

namespace Verifier

variable {ρ : Type} {v : Verifier ρ} {transactionHash : String} {toBlock : JsNumber} {s : v.State}

/-- The report has reached consensus, by a transaction of a trusted oracle. -/
def ReachedConsensus (v : Verifier ρ) (decoded : Report) (toBlock : JsNumber) (s : v.State) : Prop :=
  ∃ originTxHash s₁ originTx s',
    v.consensusReachedTransactionHash toBlock (toString decoded.refSlot) (v.reportHash decoded) s
      = .ok originTxHash s₁ ∧
    v.getTransaction originTxHash s₁ = .ok originTx s' ∧ originTx.HashesTo v.el.ethers originTxHash ∧
    v.CallsSubmitReport originTx.input (v.reportHash decoded) ∧ v.SignedByOracle originTx

/-- **The data of an event**, once every check but that of the pubkey has passed. -/
def Authenticates (v : Verifier ρ) (transactionHash : String) (toBlock : JsNumber) (s : v.State)
    (data : String) : Prop :=
  ∃ tx s₁ call, v.getTransaction transactionHash s = .ok tx s₁ ∧ v.exitBusInput tx = .ok call ∧
    ((selectorOf call = SUBMIT_REPORT_DATA_SELECTOR ∧ ∃ decoded,
      v.el.ethers.decodeSubmitReportData call = .ok decoded ∧ decoded.data = data ∧
      v.ReachedConsensus decoded toBlock s₁) ∨
    (selectorOf call = SUBMIT_EXIT_REQUESTS_DATA_SELECTOR ∧ ∃ request,
      v.el.ethers.decodeSubmitExitRequestsData call = .ok request ∧ request.data = data ∧
      toLowerCase transactionHash ∈ v.SUBMIT_TX_HASH_ALLOWLIST ∧ tx.HashesTo v.el.ethers transactionHash))

/-- An event has one data. -/
theorem Authenticates.unique {data data' : String} (first : v.Authenticates transactionHash toBlock s data)
    (second : v.Authenticates transactionHash toBlock s data') : data = data' := by
  have other : SUBMIT_REPORT_DATA_SELECTOR ≠ SUBMIT_EXIT_REQUESTS_DATA_SELECTOR := by decide
  obtain ⟨tx, s₁, call, loaded, exitBus, path⟩ := first
  obtain ⟨tx', s₁', call', loaded', exitBus', path'⟩ := second
  rw [loaded] at loaded'
  cases loaded'
  rw [exitBus] at exitBus'
  cases exitBus'
  rcases path with ⟨report, decoded, decodes, rfl, _⟩ | ⟨requests, request, decodes, rfl, _⟩
  · rcases path' with ⟨_, decoded', decodes', rfl, _⟩ | ⟨requests, _⟩
    · rw [decodes] at decodes'
      rw [Except.ok.inj decodes']
    · exact absurd (report.symm.trans requests) other
  · rcases path' with ⟨report, _⟩ | ⟨_, request', decodes', rfl, _⟩
    · exact absurd (report.symm.trans requests) other
    · rw [decodes] at decodes'
      rw [Except.ok.inj decodes']

/-- **An event is accepted** when its data is authenticated, and the pubkey occurs in it. -/
theorem resolves_verifyEvent_iff {validatorPubkey : String} :
    Resolves (v.verifyEvent validatorPubkey transactionHash toBlock) s ↔
      ∃ data, v.Authenticates transactionHash toBlock s data ∧ MentionsPubkey data validatorPubkey := by
  constructor
  · rintro ⟨_, s', ran⟩
    obtain ⟨tx, s₁, call, loaded, exitBus, ⟨report, decoded, decodes, accepted⟩ |
      ⟨requests, rfl, accepted⟩⟩ := verifyEvent_ok.mp ran
    · obtain ⟨mentions, originTxHash, s₂, originTx, rest⟩ := verifyOracleEvent_ok.mp accepted
      exact ⟨decoded.data, ⟨tx, s₁, call, loaded, exitBusInput_ok.mpr exitBus,
        .inl ⟨report, decoded, decodes, rfl, originTxHash, s₂, originTx, s', rest⟩⟩, mentions⟩
    · obtain ⟨listed, intact, request, decodes, mentions⟩ :=
        verifySubmitExitRequestsDataTransaction_ok.mp accepted
      exact ⟨request.data, ⟨tx, s₁, call, loaded, exitBusInput_ok.mpr exitBus,
        .inr ⟨requests, request, decodes, rfl, listed, intact⟩⟩, mentions⟩
  · rintro ⟨data, ⟨tx, s₁, call, loaded, exitBus, path⟩, mentions⟩
    have bus := exitBusInput_ok.mp exitBus
    rcases path with ⟨report, decoded, decodes, rfl, originTxHash, s₂, originTx, s', rest⟩ |
      ⟨requests, request, decodes, rfl, listed, intact⟩
    · exact ⟨(), s', verifyEvent_ok.mpr ⟨tx, s₁, call, loaded, bus, .inl ⟨report, decoded, decodes,
        verifyOracleEvent_ok.mpr ⟨mentions, originTxHash, s₂, originTx, rest⟩⟩⟩⟩
    · exact ⟨(), s₁, verifyEvent_ok.mpr ⟨tx, s₁, call, loaded, bus, .inr ⟨requests, rfl,
        verifySubmitExitRequestsDataTransaction_ok.mpr ⟨listed, intact, request, decodes, mentions⟩⟩⟩⟩

/-- **When an accepted pubkey is that of a record**: when its digits stand nowhere in the data, or the pubkey is
`0x` and digits that stand where a record has its own. -/
theorem acceptsKey_iff {format : DataFormat} {requests : List (ExitRequest format)} {validatorPubkey : String}
    (authentic : v.Authenticates transactionHash toBlock s (packed requests)) :
    (Resolves (v.verifyEvent validatorPubkey transactionHash toBlock) s →
      ∃ request ∈ requests, validatorPubkey = request.key) ↔
    (MentionsPubkey (packed requests) validatorPubkey →
      StandsAsKey format (packed requests) validatorPubkey) := by
  rw [standsAsKey_iff, resolves_verifyEvent_iff]
  refine imp_congr ?_ Iff.rfl
  constructor
  · rintro ⟨data, other, mentions⟩
    rwa [← other.unique authentic]
  · intro mentions
    exact ⟨_, authentic, mentions⟩

end Verifier

/-! ### A recorded report -/

namespace OracleFixture

/-- The request of the report. -/
def recordedRequest : ExitRequest .LIST where
  moduleId := #v[0x00, 0x00, 0x01]
  nodeOpId := #v[0x00, 0x00, 0x00, 0x00, 0x29]
  validatorIndex := #v[0x00, 0x00, 0x00, 0x00, 0x00, 0x05, 0x5d, 0x94]
  keyIndex := #v[]
  pubkey := #v[0xab, 0x50, 0xef, 0x06, 0xa0, 0xe4, 0x8d, 0x9e, 0xdf, 0x43, 0xe0, 0x52, 0xf2, 0x0d, 0xc9, 0x12,
    0xe0, 0xba, 0x8d, 0x5b, 0x3f, 0x07, 0x05, 0x1b, 0x6f, 0x2a, 0x13, 0xb0, 0x94, 0x08, 0x7f, 0x79,
    0x1a, 0xf7, 0x9b, 0x27, 0x80, 0xd3, 0x95, 0x44, 0x4a, 0x57, 0xe2, 0x58, 0xd8, 0x38, 0x08, 0x3a]

theorem packed_recordedRequest : packed [recordedRequest] = report.data := by decide +kernel

theorem authenticates_recorded : (verifier (.lru 50) consensusAddress).Authenticates
    ORACLE_SUBMIT_REPORT_DATA_TX (.int 0x855ad2) ((verifier (.lru 50) consensusAddress).fresh ())
    (packed [recordedRequest]) := by
  obtain ⟨s₁, s₂, s', final, reached, origin⟩ := @loads consensusAddress (.lru 50) (by decide)
  have direct : selectorOf finalTx.input ≠ EXECUTE_SELECTOR := by
    show selectorOf submitReportDataInput ≠ _
    rw [selectorOf_submitReportDataInput]
    decide
  exact ⟨finalTx, s₁, submitReportDataInput, final, if_neg direct,
    .inl ⟨selectorOf_submitReportDataInput, report, decodeSubmitReportData_input, packed_recordedRequest.symm,
      ORACLE_SUBMIT_REPORT_TX, s₂, originTx, s', reached, origin, hashesTo_originTx, callsSubmitReport_originTx,
      signedByOracle_originTx⟩⟩

/-- The pubkey of the recorded exit. -/
theorem acceptsKey_recorded : (verifier (.lru 50) consensusAddress).Authenticates
      ORACLE_SUBMIT_REPORT_DATA_TX (.int 0x855ad2) ((verifier (.lru 50) consensusAddress).fresh ())
      (packed [recordedRequest]) ∧
    ∃ request ∈ [recordedRequest], ORACLE_VALIDATOR_PUBKEY = request.key := by
  have whole : ORACLE_VALIDATOR_PUBKEY = recordedRequest.key := by decide +kernel
  have stands : StandsAsKey .LIST (packed [recordedRequest]) ORACLE_VALIDATOR_PUBKEY :=
    standsAsKey_iff.mpr ⟨recordedRequest, List.mem_singleton_self _, whole⟩
  have accepted := @verifyEvent_recorded consensusAddress (.lru 50) (by decide)
  exact ⟨authenticates_recorded,
    (Verifier.acceptsKey_iff authenticates_recorded).mpr (fun _ => stands) ⟨(), accepted⟩⟩

/-- The last byte of the validator index, and the first 47 bytes of the pubkey. -/
def shiftedPubkey : String :=
  "0x94ab50ef06a0e48d9edf43e052f20dc912e0ba8d5b3f07051b6f2a13b094087f791af79b2780d395444a57e258d83808"

/-- **Digits that start in the validator index are accepted.** -/
theorem not_acceptsKey : ¬ ∀ (ρ : Type) (v : Verifier ρ) (format : DataFormat)
    (requests : List (ExitRequest format)) (validatorPubkey transactionHash : String) (toBlock : JsNumber)
    (s : v.State), v.Authenticates transactionHash toBlock s (packed requests) →
    Resolves (v.verifyEvent validatorPubkey transactionHash toBlock) s →
    ∃ request ∈ requests, validatorPubkey = request.key := by
  intro claim
  have mentions : MentionsPubkey (packed [recordedRequest]) shiftedPubkey := by
    unfold MentionsPubkey includes packed sliceFrom
    rw [String.toList_ofList, String.toList_ofList]
    decide +kernel
  have accepted := Verifier.resolves_verifyEvent_iff.mpr ⟨_, authenticates_recorded, mentions⟩
  obtain ⟨request, member, same⟩ := claim _ _ _ _ _ _ _ _ authenticates_recorded accepted
  rw [List.mem_singleton.mp member] at same
  have other : shiftedPubkey ≠ recordedRequest.key := by decide +kernel
  exact other same

end OracleFixture

end ValidatorEjector
