/-
**`services/messages-processor/dto` — the shapes of a message file.**

* `exitMessageDTO`, `ethDoExitMessageDTO` — a bare message, and one as `ethdo` writes it.
* `exitOrEthDoExitDTO` — either of them, the second winning; `Validated.message` — the message in it.
* `encryptedMessageDTO` — the keystore of an encrypted file.
-/

import ValidatorEjector.Messages.Storage
import ValidatorEjector.Validator

namespace ValidatorEjector

open Js Validator

/-! ### Messages -/

def exitMessageDTO (input : Option Json) : Except Failure ExitMessage :=
  obj input fun json => do
    pure {
      message := ← obj (json.get "message") fun message => do
        pure {
          epoch := ← str (message.get "epoch")
          validator_index := ← str (message.get "validator_index") }
      signature := ← str (json.get "signature") }

/-- A message as `ethdo` writes it. -/
structure EthDoExitMessage where
  exit : ExitMessage
  fork_version : String
  deriving DecidableEq

def ethDoExitMessageDTO (input : Option Json) : Except Failure EthDoExitMessage :=
  obj input fun json => do
    pure {
      exit := ← exitMessageDTO (json.get "exit")
      fork_version := ← str (json.get "fork_version") }

/-- A validated file: one of the two shapes. -/
inductive Validated
  | exitMessage (message : ExitMessage)
  | ethDo (message : EthDoExitMessage)
  deriving DecidableEq

def exitOrEthDoExitDTO (input : Option Json) : Except Failure Validated :=
  wrap (Validator.or ((exitMessageDTO input).map .exitMessage) ((ethDoExitMessageDTO input).map .ethDo))

/-- `'exit' in validated ? validated.exit : validated`. -/
def Validated.message : Validated → ExitMessage
  | exitMessage message => message
  | ethDo message => message.exit

/-! ### Encrypted files -/

structure KdfParams where
  dklen : JsNumber
  c : JsNumber
  prf : String
  salt : String

structure Kdf where
  function : String
  params : KdfParams
  message : String

structure Checksum where
  function : String
  message : String

structure Cipher where
  function : String
  iv : String
  message : String

structure KeystoreCrypto where
  kdf : Kdf
  checksum : Checksum
  cipher : Cipher

/-- The keystore of an encrypted file. -/
structure EncryptedMessage where
  version : JsNumber
  uuid : String
  description : Option String
  path : String
  pubkey : String
  crypto : KeystoreCrypto

def kdfDTO (input : Option Json) : Except Failure Kdf :=
  obj input fun kdf => do
    pure {
      function := ← literal_str "pbkdf2" (kdf.get "function")
      params := ← obj (kdf.get "params") fun params => do
        pure {
          dklen := ← num (params.get "dklen")
          c := ← num (params.get "c")
          prf := ← literal_str "hmac-sha256" (params.get "prf")
          salt := ← str (params.get "salt") }
      message := ← literal_str "" (kdf.get "message") }

def checksumDTO (input : Option Json) : Except Failure Checksum :=
  obj input fun checksum => do
    let function ← literal_str "sha256" (checksum.get "function")
    let _ ← obj (checksum.get "params") fun _ => pure ()
    let message ← str (checksum.get "message")
    pure { function, message }

def cipherDTO (input : Option Json) : Except Failure Cipher :=
  obj input fun cipher => do
    pure {
      function := ← literal_str "aes-128-ctr" (cipher.get "function")
      iv := ← obj (cipher.get "params") fun params => str (params.get "iv")
      message := ← str (cipher.get "message") }

def encryptedMessageDTO (input : Option Json) : Except Failure EncryptedMessage :=
  obj input fun json => do
    pure {
      version := ← num (json.get "version")
      uuid := ← str (json.get "uuid")
      description := ← optional (str (json.get "description"))
      path := ← str (json.get "path")
      pubkey := ← str (json.get "pubkey")
      crypto := ← obj (json.get "crypto") fun crypto => do
        pure {
          kdf := ← kdfDTO (crypto.get "kdf")
          checksum := ← checksumDTO (crypto.get "checksum")
          cipher := ← cipherDTO (crypto.get "cipher") } }

end ValidatorEjector
