/-
**`encryptor/encrypt.ts` — and that its files are loaded like the plain ones.**

* `EncryptedMessage.toJson`, `Standard` — a keystore as JSON, and one of the kind that `create` makes.
* `encryptedMessageDTO_toJson` — such a keystore passes the check of an encrypted file, with all its members.
* `Encryptor` — the libraries and the password of the script.
* `encryptFile`, `encryptFolder` — the script.
* `plainMessage` — the message in a plain text; `fileMessage_encryptFile` — it is what an encrypted file is
  read for, whatever the text, and nothing is thrown.
* `Clear` — the texts that the script is for; `opens_encryptFolder` — these are opened for the same, encrypted
  or not.
* **`Encryptor.load_encrypted`** — an encrypted folder is loaded like the plain one, but for the checksums.
-/

import ValidatorEjector.LocalFileReader
import ValidatorEjector.Messages.Erased
import ValidatorEjector.Messages.Isolation

namespace ValidatorEjector

open Js Library Library.Program Validator

/-! ### Keystores -/

def Kdf.toJson (kdf : Kdf) : Json :=
  .object [("function", .string kdf.function),
    ("params", .object [("dklen", .number kdf.params.dklen), ("c", .number kdf.params.c),
      ("prf", .string kdf.params.prf), ("salt", .string kdf.params.salt)]),
    ("message", .string kdf.message)]

def Checksum.toJson (checksum : Checksum) : Json :=
  .object [("function", .string checksum.function), ("params", .object []),
    ("message", .string checksum.message)]

def Cipher.toJson (cipher : Cipher) : Json :=
  .object [("function", .string cipher.function), ("params", .object [("iv", .string cipher.iv)]),
    ("message", .string cipher.message)]

/-- A keystore as JSON. A description that is not there is left out. -/
def EncryptedMessage.toJson (store : EncryptedMessage) : Json :=
  .object ([("version", .number store.version), ("uuid", .string store.uuid)] ++
    store.description.toList.map (fun description => ("description", .string description)) ++
    [("path", .string store.path), ("pubkey", .string store.pubkey),
      ("crypto", .object [("kdf", store.crypto.kdf.toJson), ("checksum", store.crypto.checksum.toJson),
        ("cipher", store.crypto.cipher.toJson)])])

/-- An integer that JSON keeps. -/
def Exact (n : JsNumber) : Prop := ∃ z : Int, n = .int z ∧ z.natAbs ≤ 2 ^ 53

/-- **A keystore with the default modules.** -/
structure EncryptedMessage.Standard (store : EncryptedMessage) : Prop where
  version : Exact store.version
  kdf : store.crypto.kdf.function = "pbkdf2"
  dklen : Exact store.crypto.kdf.params.dklen
  c : Exact store.crypto.kdf.params.c
  prf : store.crypto.kdf.params.prf = "hmac-sha256"
  message : store.crypto.kdf.message = ""
  checksum : store.crypto.checksum.function = "sha256"
  cipher : store.crypto.cipher.function = "aes-128-ctr"

section Keystores

variable {store : EncryptedMessage}

theorem EncryptedMessage.Standard.legible (standard : store.Standard) :
    store.toJson.Legible JsNumber.toText := by
  obtain ⟨version, uuid, description, path, pubkey,
    ⟨⟨function, ⟨dklen, c, prf, salt⟩, message⟩, checksum, cipher⟩⟩ := store
  obtain ⟨⟨v, rfl, small⟩, -, ⟨d, rfl, small'⟩, ⟨i, rfl, small''⟩, -⟩ := standard
  have rest : Json.Legible JsNumber.toText (.object [
      ("kdf", Kdf.toJson ⟨function, ⟨.int d, .int i, prf, salt⟩, message⟩),
      ("checksum", checksum.toJson), ("cipher", cipher.toJson)]) :=
    ⟨⟨trivial, ⟨Json.legible_int small', Json.legible_int small'', trivial, trivial, trivial⟩, trivial, trivial⟩,
      ⟨trivial, trivial, trivial, trivial⟩, ⟨trivial, ⟨trivial, trivial⟩, trivial, trivial⟩, trivial⟩
  cases description with
  | none => exact ⟨Json.legible_int small, trivial, trivial, trivial, rest, trivial⟩
  | some description => exact ⟨Json.legible_int small, trivial, trivial, trivial, trivial, rest, trivial⟩

/-- **A keystore passes the check of an encrypted file**, with all its members. -/
theorem encryptedMessageDTO_toJson (standard : store.Standard) :
    encryptedMessageDTO (some store.toJson) = .ok store := by
  obtain ⟨version, uuid, description, path, pubkey, ⟨⟨function, ⟨dklen, c, prf, salt⟩, message⟩,
    ⟨checksum, digest⟩, ⟨cipher, iv, text⟩⟩⟩ := store
  obtain ⟨⟨v, rfl, _⟩, rfl, ⟨d, rfl, _⟩, ⟨i, rfl, _⟩, rfl, rfl, rfl, rfl⟩ := standard
  cases description <;> rfl

/-- It is taken for an encrypted file. -/
theorem EncryptedMessage.hasKey_toJson (store : EncryptedMessage) :
    store.toJson.hasKey "crypto" = some true := by
  obtain ⟨version, uuid, description, path, pubkey, crypto⟩ := store
  cases description <;> rfl

end Keystores

/-! ### The script -/

/-- What `TextDecoder` leaves of a text: a byte order mark at its front is dropped. -/
def withoutMark (text : String) : String :=
  match text.toList with
  | '\uFEFF' :: cs => String.ofList cs
  | _ => text

/-- **The libraries of the script, and its password.** A keystore is made with random bytes, from which the
password restores the secret. -/
structure Encryptor (ρ : Type) where
  crypto : Crypto
  PASSWORD : String
  /-- `utils.toUtf8Bytes`. -/
  toUtf8Bytes : String → Bytes
  /-- `create(password, secret, pubkey, path)`, with the bytes that it draws. -/
  create : ρ → String → Bytes → Bytes → String → EncryptedMessage
  supplied : PASSWORD ≠ ""
  standard : ∀ draw password secret pubkey path, (create draw password secret pubkey path).Standard
  decrypt_create : ∀ draw password secret pubkey path,
    crypto.decrypt (create draw password secret pubkey path) password = .ok secret
  decodeText_toUtf8Bytes : ∀ text, crypto.decodeText (toUtf8Bytes text) = withoutMark text

namespace Encryptor

variable {ρ σ : Type} (e : Encryptor ρ)

/-- The keystore of a text. -/
def store (draw : ρ) (original : String) : EncryptedMessage :=
  let message := e.toUtf8Bytes original
  e.create draw e.PASSWORD message [] ""

/-- The file that is written for an input. -/
def encryptFile (draw : ρ) (file : MessageFile) : MessageFile :=
  ⟨file.filename, Json.stringify JsNumber.toText (e.store draw file.content).toJson⟩

/-- One turn of the loop over the folder. -/
def encryptTurn (draws : Nat → ρ) (turn : MessageFile × Nat) : Option MessageFile :=
  let (file, ix) := turn
  if isJson file.filename then some (e.encryptFile (draws ix) file) else none

/-- **The script**: the folder that it writes, from a folder and what it draws for each file. -/
def encryptFolder (draws : Nat → ρ) (files : List MessageFile) : List MessageFile :=
  files.zipIdx.filterMap (e.encryptTurn draws)

/-- The processor with the libraries and the password of the script. -/
def unlocking (p : MessagesProcessor σ) : MessagesProcessor σ :=
  { p with crypto := e.crypto, MESSAGES_PASSWORD := some e.PASSWORD }

/-! ### What an encrypted file is read for -/

/-- The message in a plain text. -/
def plainMessage (text : String) : Option ExitMessage :=
  match Json.parse (withoutMark text) with
  | none => none
  | some json =>
    match exitOrEthDoExitDTO (some json) with
    | .error _ => none
    | .ok validated => some validated.message

/-- A text that is read as it is, and not as a keystore. -/
def Clear (text : String) : Prop :=
  withoutMark text = text ∧ ∀ json, Json.parse text = some json → json.hasKey "crypto" = some false

section Files

variable {e} {p : MessagesProcessor σ}

theorem parse_encryptFile (draw : ρ) (file : MessageFile) :
    Json.parse (e.encryptFile draw file).content = some (e.store draw file.content).toJson :=
  Json.parse_legible (e.standard draw e.PASSWORD _ [] "").legible

/-- The password restores the text. -/
theorem decryptMessage_store (draw : ρ) (original : String) :
    (e.unlocking p).decryptMessage (e.store draw original).toJson =
      match Json.parse (withoutMark original) with
      | some json => .ok json
      | none => .error (.error "Unparseable JSON after decryption") := by
  have given : missing (some e.PASSWORD) = false := decide_eq_false e.supplied
  have standard : (e.store draw original).Standard := e.standard draw e.PASSWORD _ [] ""
  have opened : e.crypto.decrypt (e.store draw original) e.PASSWORD = .ok (e.toUtf8Bytes original) :=
    e.decrypt_create draw e.PASSWORD _ [] ""
  have text : e.crypto.decodeText (e.toUtf8Bytes original) = withoutMark original :=
    e.decodeText_toUtf8Bytes original
  show (if missing (some e.PASSWORD) = true then _ else do
    let checked ← encryptedMessageDTO (some (e.store draw original).toJson)
    let content ← e.crypto.decrypt checked e.PASSWORD
    match Json.parse (e.crypto.decodeText content) with
    | some json => .ok json
    | none => .error (.error "Unparseable JSON after decryption")) = _
  rw [given, if_neg Bool.false_ne_true, encryptedMessageDTO_toJson standard]
  show (do
    let content ← e.crypto.decrypt (e.store draw original) e.PASSWORD
    match Json.parse (e.crypto.decodeText content) with
    | some json => .ok json
    | none => .error (.error "Unparseable JSON after decryption")) = _
  rw [opened, ← text]
  rfl

/-- **An encrypted file is read for the message in its plain text**, and nothing is thrown. -/
theorem fileMessage_encryptFile (draw : ρ) (file : MessageFile) :
    (e.unlocking p).fileMessage (e.encryptFile draw file).content = .ok (plainMessage file.content) := by
  unfold MessagesProcessor.fileMessage plainMessage
  rw [parse_encryptFile]
  dsimp only
  rw [EncryptedMessage.hasKey_toJson]
  dsimp only
  rw [if_pos rfl, decryptMessage_store]
  cases Json.parse (withoutMark file.content) with
  | none => rfl
  | some json =>
    dsimp only
    cases exitOrEthDoExitDTO (some json) <;> rfl

/-- A clear text is read for the same message as it is. -/
theorem fileMessage_clear {text : String} (clear : Clear text) :
    p.fileMessage text = .ok (plainMessage text) := by
  obtain ⟨unmarked, plain⟩ := clear
  unfold MessagesProcessor.fileMessage plainMessage
  rw [unmarked]
  cases parsed : Json.parse text with
  | none => rfl
  | some json =>
    dsimp only
    rw [plain json parsed]
    dsimp only
    rw [if_neg Bool.false_ne_true]
    dsimp only
    cases exitOrEthDoExitDTO (some json) <;> rfl

/-- A printed message is clear. -/
theorem clear_toJson (m : ExitMessage) : Clear (textOf m.toJson) := by
  constructor
  · have text : (textOf m.toJson).toList = Json.print JsNumber.toText m.toJson := String.toList_ofList
    unfold withoutMark
    rw [text]
    rfl
  · intro json parsed
    have text : Json.parse (textOf m.toJson) = some m.toJson := Json.parse_stringify m.textual
    rw [text] at parsed
    cases parsed
    rfl

theorem encryptFile_filled (draw : ρ) (file : MessageFile) : (e.encryptFile draw file).content ≠ "" := by
  intro empty
  have parsed := parse_encryptFile (e := e) draw file
  rw [empty] at parsed
  have nothing : (Json.parse "").isNone = true := by decide +kernel
  rw [parsed] at nothing
  cases nothing

/-- **A file of a clear text is opened for the same**, encrypted or not. -/
theorem opens_encryptFile (draw : ρ) {file : MessageFile} (clear : Clear file.content) :
    (e.unlocking p).Opens (e.encryptFile draw file) file := by
  refine ⟨rfl, ?_⟩
  have unseen (content : String) : (e.unlocking p).isSeen .empty content = false := rfl
  rw [MessagesProcessor.opened_of_text (encryptFile_filled draw file) (unseen _), fileMessage_encryptFile]
  by_cases empty : file.content = ""
  · have nothing : plainMessage "" = none := Option.isNone_iff_eq_none.mp (by decide +kernel)
    rw [empty, nothing]
    exact (if_pos empty).symm
  · rw [MessagesProcessor.opened_of_text empty (unseen _), fileMessage_clear clear]

/-- A folder of clear texts is, file by file. -/
theorem opens_encryptFolder (draws : Nat → ρ) {files : List MessageFile}
    (clear : ∀ file ∈ files, Clear file.content) :
    List.Forall₂ (e.unlocking p).Opens (e.encryptFolder draws files)
      (files.filter fun file => isJson file.filename) := by
  have numbered : ∀ turns : List (MessageFile × Nat), (∀ turn ∈ turns, Clear turn.1.content) →
      List.Forall₂ (e.unlocking p).Opens
        (turns.filterMap (e.encryptTurn draws))
          ((turns.map Prod.fst).filter fun file => isJson file.filename) := by
    intro turns
    induction turns with
    | nil => exact fun _ => .nil
    | cons turn turns ih =>
      intro clear
      obtain ⟨first, rest⟩ := List.forall_mem_cons.mp clear
      cases json : isJson turn.1.filename with
      | true =>
        have written : e.encryptTurn draws turn = some (e.encryptFile (draws turn.2) turn.1) := if_pos json
        rw [List.filterMap_cons_some written, List.map_cons,
          List.filter_cons_of_pos (p := fun file : MessageFile => isJson file.filename) json]
        exact .cons (opens_encryptFile _ first) (ih rest)
      | false =>
        have ignored : e.encryptTurn draws turn = none := if_neg (by simp [json])
        rw [List.filterMap_cons_none ignored, List.map_cons,
          List.filter_cons_of_neg (p := fun file : MessageFile => isJson file.filename) (by simp [json])]
        exact ih rest
  have folder := numbered files.zipIdx fun turn inside => clear turn.1 (List.fst_mem_of_mem_zipIdx inside)
  rwa [List.zipIdx_map_fst] at folder

theorem isJson_encryptFolder (draws : Nat → ρ) {files : List MessageFile} {file : MessageFile}
    (inside : file ∈ e.encryptFolder draws files) : isJson file.filename = true := by
  obtain ⟨turn, -, written⟩ := List.mem_filterMap.mp inside
  unfold encryptTurn at written
  dsimp only at written
  by_cases json : isJson turn.1.filename = true
  · rw [if_pos json] at written
    cases written
    exact json
  · rw [if_neg json] at written
    cases written

/-- **An encrypted folder is loaded like the plain one.** With the password, an encrypted file is read for the
message in its plain text, whatever the text, and nothing is thrown. Into a new storage, a folder of clear texts
and what the script makes of it are loaded alike: both loads fail, or both resolve with the same counts, the same
bad files and, but for the checksums, the same messages, so the same exit is found for every validator. These are
the files that the local reader gives for a directory of the texts, and for one with what the script writes. -/
theorem load_encrypted (e : Encryptor ρ) (p : MessagesProcessor σ) (draws : Nat → ρ) (files : List MessageFile)
    (clear : ∀ file ∈ files, Clear file.content) (forkInfo : ForkVersionInfo) (world : σ) :
    let encrypted := ((e.unlocking p).serving (e.encryptFolder draws files)).loadToMemoryStorage forkInfo
      (.fresh world)
    let plain := ((e.unlocking p).serving
      (files.filter fun file => isJson file.filename)).loadToMemoryStorage forkInfo (.fresh world)
    (∀ draw file, (e.unlocking p).fileMessage (e.encryptFile draw file).content =
      .ok (plainMessage file.content)) ∧
    MessagesProcessor.Alike encrypted plain ∧
    (∀ stats s stats' s', encrypted = .ok stats s → plain = .ok stats' s' → ∀ i,
      s.messageStorage.findByValidatorIndex i = s'.messageStorage.findByValidatorIndex i) ∧
    ∀ (disk : Disk) input output, disk.Holds input files → disk.Holds output (e.encryptFolder draws files) →
      disk.readFilesFromFolder input = some (.ok (files.filter fun file => isJson file.filename)) ∧
      disk.readFilesFromFolder output = some (.ok (e.encryptFolder draws files)) := by
  intro encrypted plain
  have alike : MessagesProcessor.Alike encrypted plain :=
    MessagesProcessor.load_alike (opens_encryptFolder draws clear) world
  refine ⟨fileMessage_encryptFile, alike, fun stats s stats' s' first second i => ?_,
    fun disk input output plain encrypted => ⟨Disk.readFilesFromFolder_holds plain, ?_⟩⟩
  · rw [first, second] at alike
    exact alike.find i
  · rw [Disk.readFilesFromFolder_holds encrypted,
      List.filter_eq_self.mpr fun file inside => isJson_encryptFolder draws inside]

end Files

end Encryptor

/-! ### A folder -/

namespace HoleskyFixture

/-- Libraries that keep the secret in its keystore, under the password. -/
def encryptor : Encryptor Unit where
  crypto := { crypto with
    decrypt := fun store password =>
      if store.crypto.checksum.message = password then
        .ok (store.crypto.cipher.message.toList.map fun c => UInt8.ofNat c.toNat)
      else .error (.error "Invalid password")
    decodeText := fun content => withoutMark ((String.fromUTF8? ⟨content.toArray⟩).getD "") }
  PASSWORD := "password"
  toUtf8Bytes text := text.toUTF8.data.toList
  create _ password secret pubkey path :=
    { version := .int 4, uuid := "", description := none, path, pubkey := ""
      crypto := {
        kdf := ⟨"pbkdf2", ⟨.int 32, .int 262144, "hmac-sha256", ""⟩, ""⟩
        checksum := ⟨"sha256", password⟩
        cipher := ⟨"aes-128-ctr", "", String.ofList (secret.map fun b => Char.ofNat b.toNat)⟩ } }
  supplied := by decide
  standard _ _ _ _ _ :=
    ⟨⟨4, rfl, by decide⟩, rfl, ⟨32, rfl, by decide⟩, ⟨262144, rfl, by decide⟩, rfl, rfl, rfl, rfl⟩
  decrypt_create _ password secret _ _ := by
    have back (b : UInt8) : UInt8.ofNat (Char.ofNat b.toNat).toNat = b := by
      have small := b.toNat_lt
      have valid : b.toNat.isValidChar := .inl (by omega)
      rw [Char.ofNat, dif_pos valid]
      exact UInt8.ofNat_toNat
    have whole : secret.map (fun b => UInt8.ofNat (Char.ofNat b.toNat).toNat) = secret := by
      simp only [back]
      exact List.map_id' secret
    refine (if_pos rfl).trans (congrArg Except.ok ?_)
    rw [String.toList_ofList, List.map_map]
    exact whole
  decodeText_toUtf8Bytes text := by
    have bytes : (⟨text.toUTF8.data.toList.toArray⟩ : ByteArray) = text.toUTF8 := rfl
    have decoded : String.fromUTF8? text.toUTF8 = some text := dif_pos text.isValidUTF8
    show withoutMark ((String.fromUTF8? ⟨text.toUTF8.data.toList.toArray⟩).getD "") = _
    rw [bytes, decoded, Option.getD_some]

theorem clear_file : ∀ f ∈ [file], Encryptor.Clear f.content := by
  intro f inside
  rw [List.mem_singleton.mp inside]
  exact Encryptor.clear_toJson message

/-- The fixture over the folder of the file, with the libraries of the script. -/
def plainProcessor : MessagesProcessor Moment :=
  (encryptor.unlocking (processor FAR_FUTURE_EPOCH)).serving [file]

/-- What it is told. -/
def plainAnswers : MessagesProcessor.Answers :=
  ⟨0, [file], genesis, forkState, (world FAR_FUTURE_EPOCH).infos plainProcessor.VALIDATORS_BATCH_SIZE ["828943"]⟩

theorem newMessages_plain : plainProcessor.newMessages forkInfo .fresh plainAnswers = [stored] :=
  newMessages_first rfl (@sha256_file FAR_FUTURE_EPOCH)

theorem told_plain : plainProcessor.Told forkInfo .fresh plainAnswers ⟨0, []⟩ ⟨0, []⟩ := by
  have present : missing (some "messages") = false := by decide
  refine .messages present rfl (MessagesProcessor.readFolder_serving _ _) rfl rfl ?_
  have asked : ((plainProcessor.newMessages forkInfo .fresh plainAnswers).map
      ExitMessageWithMetadata.index).eraseDups = ["828943"] := by
    rw [newMessages_plain]
    rfl
  have fetched : (Outside.fixed (world FAR_FUTURE_EPOCH)).cl.fetchValidatorsInfoBatch ["828943"]
      plainProcessor.VALIDATORS_BATCH_SIZE "head" ⟨0, []⟩ = .ok plainAnswers.infos ⟨0, []⟩ :=
    fetchValidatorsInfoBatch_fixed
  rw [← asked] at fetched
  exact fetched

theorem checked_plain : plainProcessor.checked (plainAnswers.context forkInfo) plainAnswers.infos.get? message =
    .accepted := by
  have known : plainAnswers.infos.get? "828943" = some (validator FAR_FUTURE_EPOCH).toInfo :=
    infos_get? (w := world FAR_FUTURE_EPOCH) (v := validator FAR_FUTURE_EPOCH) rfl (List.cons_ne_nil _ _)
  have accepted : (processor FAR_FUTURE_EPOCH).checked (plainAnswers.context forkInfo)
      plainAnswers.infos.get? message = .accepted := accepted_message rfl rfl known
  have same : plainProcessor.isValidSignature = (processor FAR_FUTURE_EPOCH).isValidSignature := by
    funext c key m
    rfl
  unfold MessagesProcessor.checked at accepted ⊢
  rw [same]
  exact accepted

/-- A load of the file into a new storage stores its message once it passes its check. -/
theorem load_accepted {p : MessagesProcessor σ} {x : MessagesProcessor.Answers} {before after : σ}
    (told : p.Told forkInfo .fresh x before after) (folder : x.folder = [file])
    (new : p.newMessages forkInfo .fresh x = [stored])
    (accepted : p.checked (x.context forkInfo) x.infos.get? message = .accepted) :
    ∃ stats s, p.loadToMemoryStorage forkInfo (.fresh before) = .ok stats s ∧
      s.messageStorage.findByValidatorIndex "828943" = some message := by
  have orderly : p.Orderly forkInfo .fresh x := by
    constructor
    · intro f inside failure thrown
      rw [folder] at inside
      rw [List.mem_singleton.mp inside] at thrown
      have text : file.content ≠ "" := textOf_ne_empty message.textual
      have read : p.fileMessage file.content = .ok (some message) := fileMessage_toJson message
      rw [MessagesProcessor.opened_of_text text rfl, read] at thrown
      cases thrown
    · intro m inside failure thrown
      rw [new] at inside
      rw [List.mem_singleton.mp inside] at thrown
      cases accepted.symm.trans thrown
  have inside : (p.storageAfter forkInfo .fresh x).Stores stored := by
    refine (MessagesProcessor.stores_storageAfter MessageStorage.aligned_fresh).mpr (.inl ?_)
    unfold MessagesProcessor.verifiedMessages
    rw [new, List.flatMap_singleton, MessagesProcessor.verifiedMessage_of_checked accepted]
    rfl
  exact ⟨_, _, MessagesProcessor.load_ok_iff.mpr ⟨x, after, told, orderly, rfl, rfl⟩, find_stored inside⟩

/-- **The message, encrypted**: both loads resolve, and find it. -/
theorem load_encrypted_file : ∃ stats s s',
    ((encryptor.unlocking (processor FAR_FUTURE_EPOCH)).serving
      (encryptor.encryptFolder (fun _ => ()) [file])).loadToMemoryStorage forkInfo (.fresh ⟨0, []⟩) =
        .ok stats s ∧
    ((encryptor.unlocking (processor FAR_FUTURE_EPOCH)).serving
      ([file].filter fun file => isJson file.filename)).loadToMemoryStorage forkInfo (.fresh ⟨0, []⟩) =
        .ok stats s' ∧
    s.messageStorage.findByValidatorIndex "828943" = some message ∧
    s'.messageStorage.findByValidatorIndex "828943" = some message := by
  obtain ⟨-, alike, find, -⟩ := Encryptor.load_encrypted encryptor (processor FAR_FUTURE_EPOCH) (fun _ => ())
    [file] clear_file forkInfo ⟨0, []⟩
  obtain ⟨stats, s', second, found⟩ := load_accepted told_plain rfl newMessages_plain checked_plain
  have folder : ([file].filter fun file => isJson file.filename) = [file] := by
    have json : isJson file.filename = true := by decide
    exact List.filter_cons_of_pos json
  rw [folder] at alike find ⊢
  have plain : ((encryptor.unlocking (processor FAR_FUTURE_EPOCH)).serving [file]).loadToMemoryStorage forkInfo
      (.fresh ⟨0, []⟩) = .ok stats s' := second
  rw [plain] at alike
  obtain ⟨s, first⟩ := alike.resolves
  exact ⟨stats, s, s', first, plain, (find _ _ _ _ first plain "828943").trans found, found⟩

end HoleskyFixture

end ValidatorEjector
