/-
**What lies outside the ejector, and the libraries its message side calls.**

The nodes, the clock and the places the message files are read from have states of their own, of an
arbitrary type `σ`: what they answer, and whether they throw, is up to them.

* `Outside` — the requests of a job over a world with states in `σ`.
* `Crypto` — hashing, decryption, hex decoding, SSZ and BLS, from third parties.
* `ForkVersionInfo`, `ForkVersionResolver` — `services/fork-version-resolver`.
-/

import ValidatorEjector.ConsensusApi
import ValidatorEjector.ExitLogs.Fetcher
import ValidatorEjector.Messages.Dto

namespace ValidatorEjector

open Js Library Library.Program

/-- A file of the messages folder. -/
structure MessageFile where
  filename : String
  content : String
  deriving DecidableEq

/-- **The world of a job**, with states in `σ`. -/
structure Outside (σ : Type) where
  cl : ConsensusApi σ
  /-- `Date.now()`. -/
  now : σ → Int × σ
  s3Read : String → EStateM Failure σ (List MessageFile)
  gsRead : String → EStateM Failure σ (List MessageFile)
  readFilesFromFolder : String → EStateM Failure σ (List MessageFile)
  /-- `consensusApi.exitRequest`: throws when no consensus node takes the message. -/
  exitRequest : ExitMessage → EStateM Failure σ Unit
  /-- The `POST` of an event to the webhook. -/
  webhookRequest : String → ValidatorsToEject → EStateM Failure σ Unit
  resolveExitBusAddress : EStateM Failure σ Unit
  resolveConsensusAddress : EStateM Failure σ Unit
  latestBlockNumber : EStateM Failure σ Nat

/-- `readFolder`. -/
def Outside.readFolder {σ : Type} (o : Outside σ) (uri : String) :
    EStateM Failure σ (List MessageFile) :=
  if "s3://".toList <+: uri.toList then o.s3Read uri
  else if "gs://".toList <+: uri.toList then o.gsRead uri
  else o.readFilesFromFolder uri

/-! ### Libraries -/

abbrev Bytes := List UInt8

/-- `DOMAIN_VOLUNTARY_EXIT`. -/
def DOMAIN_VOLUNTARY_EXIT : Bytes := [4, 0, 0, 0]

/-- **The functions of third parties.** Decryption and hex decoding may throw. -/
structure Crypto where
  /-- `createHash('sha256').update(content).digest('hex')`. -/
  sha256 : String → String
  decrypt : EncryptedMessage → String → Except Failure Bytes
  /-- `new TextDecoder().decode(content)`. -/
  decodeText : Bytes → String
  fromHex : String → Except Failure Bytes
  computeDomain : Bytes → Bytes → Bytes → Bytes
  /-- `computeSigningRoot(ssz.phase0.VoluntaryExit, { epoch, validatorIndex }, domain)`. -/
  computeSigningRoot : JsNumber → JsNumber → Bytes → Bytes
  blsVerify : Bytes → Bytes → Bytes → Bool

/-! ### The fork of the chain -/

/-- `getForkVersionInfo`'s answer. -/
structure ForkVersionInfo where
  currentVersion : String
  capellaVersion : String
  isDencun : Bool
  deriving DecidableEq

/-- `CAPELLA_FORK_VERSIONS`, by the number of the chain. -/
def CAPELLA_FORK_VERSIONS (chainId : JsNumber) : Option String :=
  if chainId = .int 1 then some "0x03000000"
  else if chainId = .int 5 then some "0x03001020"
  else if chainId = .int 17000 then some "0x04017000"
  else if chainId = .int 560048 then some "0x40000910"
  else none

/-- `makeForkVersionResolver`. -/
structure ForkVersionResolver where
  FORCE_DENCUN_FORK_MODE : Bool
  CAPELLA_FORK_VERSION : Option String

namespace ForkVersionResolver

variable (f : ForkVersionResolver) {σ : Type}

/-- Whether Dencun has happened, where it has not been remembered. -/
def isActivated (currentVersion capellaVersion : String) : Bool :=
  (parseInt capellaVersion 16).lt (parseInt currentVersion 16) || f.FORCE_DENCUN_FORK_MODE

/-- `getCapellaForkVersion`. -/
def getCapellaForkVersion (cl : ConsensusApi σ) : EStateM Failure σ String := do
  let chainId ← cl.chainId
  match f.CAPELLA_FORK_VERSION.or (CAPELLA_FORK_VERSIONS chainId) with
  | none => throw (Failure.template
      [.text "Could not find CAPELLA_FORK_VERSION for network with chain_id ", .number chainId])
  | some capellaForkVersion =>
    if capellaForkVersion = "" then
      throw (Failure.template
        [.text "Could not find CAPELLA_FORK_VERSION for network with chain_id ", .number chainId])
    else if ¬ "0x".toList <+: capellaForkVersion.toList then
      throw (Failure.template
        [.text "Invalid CAPELLA_FORK_VERSION for network with chain_id ", .number chainId,
          .text ", should start with '0x'"])
    else pure capellaForkVersion

def getCurrentForkVersion (cl : ConsensusApi σ) : EStateM Failure σ String := do
  let state ← cl.state
  pure state.current_version

end ForkVersionResolver

end ValidatorEjector
