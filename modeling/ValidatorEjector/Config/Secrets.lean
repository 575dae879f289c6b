/-
**The credentials, and the list of secrets of the logger.**

A credential is resolved twice, once where it is used and once for the logger.

* `Host.SetTo` — a variable is set to a value, directly or through its file.
* `Host.Lists` — the values that an entry of `LOGGER_SECRETS` stands for; `mem_loggerSecrets`.
* `Host.InUse` — the values that the app uses; `Host.SecretsAgree` — they are among the secrets.
* `Host.TokenListed` — a token from a file has no white space around it, or is listed without it.
* `secretsAgree_iff` — this is what it takes: the app trims a token from a file, and the logger does not.
-/

import ValidatorEjector.Config.Service

namespace ValidatorEjector

open Js Validator Library.Program

/-- The credentials that a list of secrets may name. -/
inductive Credential
  | WEBHOOK_TOKEN
  | MESSAGES_PASSWORD
  | EXECUTION_NODE
  | CONSENSUS_NODE

/-- The variable of a credential. -/
def Credential.name : Credential → String
  | WEBHOOK_TOKEN => "WEBHOOK_TOKEN"
  | MESSAGES_PASSWORD => "MESSAGES_PASSWORD"
  | EXECUTION_NODE => "EXECUTION_NODE"
  | CONSENSUS_NODE => "CONSENSUS_NODE"

namespace Host

variable (host : Host)

/-- The file of a variable that is not set itself. -/
def FromFile (name content : String) : Prop :=
  host.filled name = none ∧
    ∃ path, host.filled (name ++ "_FILE") = some path ∧ host.readFileSync path = some content

/-- A variable is set, directly or through its file; as everywhere in the code, an empty text is none. -/
def SetTo (name value : String) : Prop :=
  value ≠ "" ∧ (host.env name = some value ∨ host.FromFile name value)

/-- `LOGGER_SECRETS` has the entry. -/
def Named (entry : String) : Prop := ∃ entries, host.loggerSecrets = .ok entries ∧ entry ∈ entries

/-- An entry stands for the value of its variable, and for the endpoints in it; one that names no variable
stands for itself. -/
def Lists (entry value : String) : Prop :=
  (∃ whole, host.SetTo entry whole ∧
    (value = whole ∨ (entry ∈ LOGGER_SECRET_URL_LIST_ENV_VARS ∧ value ∈ normalizeUrlList whole))) ∨
  ((∀ whole, ¬ host.SetTo entry whole) ∧ value = entry)

/-- A value that the app uses as the credential. -/
def InUse : Credential → String → Prop
  | .WEBHOOK_TOKEN, value =>
    ∃ config, host.makeWebhookProcessorConfig = .ok config ∧ config.WEBHOOK_TOKEN = some value
  | .MESSAGES_PASSWORD, value => ∃ config, host.makeConfig = .ok config ∧ config.MESSAGES_PASSWORD = some value
  | .EXECUTION_NODE, value => ∃ config, host.makeConfig = .ok config ∧ value ∈ config.EXECUTION_NODE
  | .CONSENSUS_NODE, value => ∃ config, host.makeConfig = .ok config ∧ value ∈ config.CONSENSUS_NODE

/-- Of a credential that is named and set, every value in use is a secret of the logger. -/
def SecretsAgree : Prop := ∀ logger, host.makeLoggerConfig = .ok logger →
  ∀ credential : Credential, host.Named credential.name → (∃ value, host.SetTo credential.name value) →
    ∀ value, host.InUse credential value → value ∈ logger.LOGGER_SECRETS

/-- The token without the white space around it. -/
def trimmed (content : String) : String := String.ofList (trim content.toList)

/-- A named token from a file has no white space around it, or another entry stands for what is left. -/
def TokenListed : Prop := ∀ content, host.Named "WEBHOOK_TOKEN" → host.FromFile "WEBHOOK_TOKEN" content →
  content ≠ "" → trimmed content = content ∨
    ∃ entry, host.Named entry ∧ entry ≠ "WEBHOOK_TOKEN" ∧ host.Lists entry (trimmed content)

end Host

section Secrets

variable {host : Host}

/-! ### One variable -/

theorem filled_eq_some {name value : String} :
    host.filled name = some value ↔ host.env name = some value ∧ value ≠ "" := by
  unfold Host.filled
  simp [Option.filter_eq_some_iff]

/-- `envOrFile` reads what the variable is set to. -/
theorem setTo_iff {name value : String} :
    host.SetTo name value ↔ host.envOrFile name = .ok (some value) ∧ value ≠ "" := by
  unfold Host.SetTo Host.FromFile Host.envOrFile
  cases here : host.filled name with
  | some direct =>
    obtain ⟨set, filled⟩ := filled_eq_some.mp here
    simp [set]
    tauto
  | none =>
    have unset (filled : value ≠ "") : host.env name ≠ some value := by
      intro set
      rw [filled_eq_some.mpr ⟨set, filled⟩] at here
      cases here
    cases file : host.filled (name ++ "_FILE") with
    | none =>
      simp
      tauto
    | some path =>
      cases read : host.readFileSync path with
      | none =>
        simp [read]
        tauto
      | some content =>
        simp [read]
        tauto

theorem setTo_unique {name v w : String} (left : host.SetTo name v) (right : host.SetTo name w) : v = w := by
  have same := (setTo_iff.mp left).1.symm.trans (setTo_iff.mp right).1
  cases same
  rfl

/-! ### The list of secrets -/

/-- What the logger resolves an entry to. -/
theorem mem_resolveLoggerSecretValues {entry : String} {values : List String}
    (resolved : host.resolveLoggerSecretValues entry = .ok values) (value : String) :
    value ∈ values ↔ host.Lists entry value := by
  obtain ⟨read, found, rest⟩ := except_bind_ok.mp resolved
  cases set : read.filter (· ≠ "") with
  | none =>
    rw [set] at rest
    cases rest
    have unset (whole : String) : ¬ host.SetTo entry whole := by
      intro whole_set
      obtain ⟨same, filled⟩ := setTo_iff.mp whole_set
      rw [found] at same
      cases same
      simp [filled] at set
    simp [Host.Lists, unset]
  | some whole =>
    rw [set] at rest
    obtain ⟨rfl, filled⟩ := Option.filter_eq_some_iff.mp set
    have set : host.SetTo entry whole := setTo_iff.mpr ⟨found, by simpa using filled⟩
    have listed : host.Lists entry value ↔
        value = whole ∨ (entry ∈ Host.LOGGER_SECRET_URL_LIST_ENV_VARS ∧ value ∈ normalizeUrlList whole) := by
      constructor
      · rintro (⟨other, other_set, form⟩ | ⟨unset, _⟩)
        · rw [setTo_unique set other_set]
          exact form
        · exact absurd set (unset whole)
      · exact fun form => .inl ⟨whole, set, form⟩
    rw [listed]
    dsimp only at rest
    split_ifs at rest with url
    · cases rest
      simp [url]
    · cases rest
      simp [url]

/-- **The secrets of the logger** are the values that its entries stand for. -/
theorem mem_loggerSecrets {logger : LoggerConfig} (logging : host.makeLoggerConfig = .ok logger)
    (value : String) :
    value ∈ logger.LOGGER_SECRETS ↔ ∃ entry, host.Named entry ∧ host.Lists entry value := by
  unfold Host.makeLoggerConfig at logging
  obtain ⟨level, _, logging⟩ := except_bind_ok.mp logging
  obtain ⟨format, _, logging⟩ := except_bind_ok.mp logging
  obtain ⟨entries, named, logging⟩ := except_bind_ok.mp logging
  obtain ⟨values, resolved, same⟩ := except_bind_ok.mp logging
  cases same
  rw [List.mem_eraseDups, mem_flatten_of_mapM resolved]
  constructor
  · rintro ⟨entry, listed, ys, found, inside⟩
    exact ⟨entry, ⟨entries, named, listed⟩, (mem_resolveLoggerSecretValues found value).mp inside⟩
  · rintro ⟨entry, ⟨entries', named', listed⟩, stands⟩
    rw [named] at named'
    cases named'
    obtain ⟨ys, found⟩ := ok_of_mapM resolved entry listed
    exact ⟨entry, listed, ys, found, (mem_resolveLoggerSecretValues found value).mpr stands⟩

/-! ### The values in use -/

/-- A file that is not read stops the app. -/
theorem envOrFile_error {name : String} {failure : Failure} (thrown : host.envOrFile name = .error failure) :
    failure.errorClass = .error := by
  unfold Host.envOrFile at thrown
  split at thrown
  · cases thrown
  · split at thrown <;> cases thrown
    rfl
  · cases thrown

/-- A password that is not set is none. -/
theorem optional_password {password : Option String}
    (read : Validator.optional (do str ((← host.envOrFile "MESSAGES_PASSWORD").map Json.string)) =
      .ok password) :
    host.envOrFile "MESSAGES_PASSWORD" = .ok password := by
  cases found : host.envOrFile "MESSAGES_PASSWORD" with
  | error failure =>
    have thrown : Validator.optional (Except.error failure : Except Failure String) = .error failure :=
      if_neg (by rw [envOrFile_error found]; decide)
    rw [found] at read
    cases thrown.symm.trans read
  | ok value =>
    rw [found] at read
    cases value with
    | none =>
      cases read
      rfl
    | some value =>
      cases read
      rfl

/-- **The credentials of the app**: the lists of endpoints, and the password. -/
theorem makeConfig_ok {config : AppConfig} (loaded : host.makeConfig = .ok config) :
    (∃ message, url_list (host.unknown "EXECUTION_NODE") message = .ok config.EXECUTION_NODE) ∧
      (∃ message, url_list (host.unknown "CONSENSUS_NODE") message = .ok config.CONSENSUS_NODE) ∧
      host.envOrFile "MESSAGES_PASSWORD" = .ok config.MESSAGES_PASSWORD := by
  unfold Host.makeConfig at loaded
  obtain ⟨scope, _, loaded⟩ := except_bind_ok.mp loaded
  obtain ⟨execution, executionNode, loaded⟩ := except_bind_ok.mp loaded
  obtain ⟨consensus, consensusNode, loaded⟩ := except_bind_ok.mp loaded
  -- JWT secret, locator, legacy variables and allowlists
  iterate 9 obtain ⟨_, _, loaded⟩ := except_bind_ok.mp loaded
  obtain ⟨password, read, loaded⟩ := except_bind_ok.mp loaded
  -- counts, flags and the scope
  iterate 14 obtain ⟨_, _, loaded⟩ := except_bind_ok.mp loaded
  cases loaded
  exact ⟨⟨_, executionNode⟩, ⟨_, consensusNode⟩, optional_password read⟩

/-- An endpoint in use is an endpoint of the variable. -/
theorem lists_of_url_list {name value : String} {message : Option String} {urls : List String}
    (url : name ∈ Host.LOGGER_SECRET_URL_LIST_ENV_VARS)
    (read : url_list (host.unknown name) message = .ok urls) (inside : value ∈ urls) :
    host.Lists name value := by
  unfold url_list make Host.unknown at read
  cases set : host.env name with
  | none =>
    rw [set] at read
    cases read
  | some whole =>
    rw [set] at read
    obtain ⟨text, same, read⟩ := except_bind_ok.mp read
    cases str_ok.mp same
    dsimp only at read
    split_ifs at read with empty
    cases read
    refine .inl ⟨whole, ⟨?_, .inl set⟩, .inr ⟨url, inside⟩⟩
    rintro rfl
    exact empty (by decide)

/-- The token in use: the variable itself, or its file without the white space around it. -/
theorem webhookToken_ok {token : String} (read : host.webhookToken = .ok (some token)) :
    host.filled "WEBHOOK_TOKEN" = some token ∨
      ∃ content, host.FromFile "WEBHOOK_TOKEN" content ∧ token = Host.trimmed content := by
  unfold Host.webhookToken at read
  split at read
  · rename_i direct
    cases read
    exact .inl direct
  · rename_i path unset named
    split at read
    · rename_i content found
      cases read
      exact .inr ⟨content, ⟨unset, path, named, found⟩, rfl⟩
    · cases read
  · cases read

theorem webhookToken_of_fromFile {content : String} (file : host.FromFile "WEBHOOK_TOKEN" content) :
    host.webhookToken = .ok (some (Host.trimmed content)) := by
  obtain ⟨unset, path, named, found⟩ := file
  have fileVariable : ("WEBHOOK_TOKEN" ++ "_FILE" : String) = "WEBHOOK_TOKEN_FILE" := by decide
  rw [fileVariable] at named
  unfold Host.webhookToken
  rw [unset, named]
  dsimp only
  rw [found]
  rfl

theorem makeWebhookProcessorConfig_ok {config : WebhookProcessorConfig}
    (loaded : host.makeWebhookProcessorConfig = .ok config) :
    host.webhookToken = .ok config.WEBHOOK_TOKEN := by
  unfold Host.makeWebhookProcessorConfig at loaded
  iterate 2 obtain ⟨_, _, loaded⟩ := except_bind_ok.mp loaded
  obtain ⟨token, read, loaded⟩ := except_bind_ok.mp loaded
  obtain ⟨_, _, loaded⟩ := except_bind_ok.mp loaded
  cases loaded
  exact read

/-! ### Agreement -/

/-- An entry of a variable stands for what it is set to. -/
theorem lists_of_setTo {name value : String} (set : host.SetTo name value) : host.Lists name value :=
  .inl ⟨value, set, .inl rfl⟩

/-- What a token in use is listed by, if one from a file is. -/
theorem listed_of_webhookToken (listed : host.TokenListed) (named : host.Named "WEBHOOK_TOKEN")
    {value token : String} (set : host.SetTo "WEBHOOK_TOKEN" value)
    (read : host.webhookToken = .ok (some token)) :
    ∃ entry, host.Named entry ∧ host.Lists entry token := by
  rcases webhookToken_ok read with direct | ⟨content, file, rfl⟩
  · obtain ⟨here, filled⟩ := filled_eq_some.mp direct
    exact ⟨_, named, lists_of_setTo ⟨filled, .inl here⟩⟩
  · have same : value = content := by
      obtain ⟨filled, here | there⟩ := set
      · have direct := filled_eq_some.mpr ⟨here, filled⟩
        rw [file.1] at direct
        cases direct
      · obtain ⟨_, path, found, read⟩ := there
        obtain ⟨_, path', found', read'⟩ := file
        rw [found] at found'
        cases found'
        rw [read] at read'
        exact Option.some.inj read'
    subst same
    rcases listed value named file set.1 with clean | ⟨entry, other, _, stands⟩
    · rw [clean]
      exact ⟨_, named, lists_of_setTo set⟩
    · exact ⟨entry, other, stands⟩

/-- The entry of the token stands for the text of the file, not for the token. -/
theorem clean_of_lists {content : String} (file : host.FromFile "WEBHOOK_TOKEN" content)
    (filled : content ≠ "") (stands : host.Lists "WEBHOOK_TOKEN" (Host.trimmed content)) :
    Host.trimmed content = content := by
  have set : host.SetTo "WEBHOOK_TOKEN" content := ⟨filled, .inr file⟩
  rcases stands with ⟨whole, whole_set, same | ⟨url, _⟩⟩ | ⟨unset, _⟩
  · rw [same]
    exact setTo_unique whole_set set
  · exact absurd url (by decide)
  · exact absurd set (unset content)

/-- **When the secrets of the logger agree with the credentials in use**: if a token that is named and
read from a file has no white space around it, or is listed by another entry as well. -/
theorem secretsAgree_iff {logger : LoggerConfig} {webhook : WebhookProcessorConfig}
    (logging : host.makeLoggerConfig = .ok logger)
    (calling : host.makeWebhookProcessorConfig = .ok webhook) : host.SecretsAgree ↔ host.TokenListed := by
  constructor
  · intro agree content named file filled
    have token := makeWebhookProcessorConfig_ok calling
    rw [webhookToken_of_fromFile file] at token
    have secret : Host.trimmed content ∈ logger.LOGGER_SECRETS :=
      agree logger logging .WEBHOOK_TOKEN named ⟨content, filled, .inr file⟩ _
        ⟨webhook, calling, (Except.ok.inj token).symm⟩
    obtain ⟨entry, other, stands⟩ := (mem_loggerSecrets logging _).mp secret
    by_cases itself : entry = "WEBHOOK_TOKEN"
    · subst itself
      exact .inl (clean_of_lists file filled stands)
    · exact .inr ⟨entry, other, itself, stands⟩
  · intro listed logger' logging' credential named ⟨value, set⟩ used inUse
    rw [mem_loggerSecrets logging']
    cases credential with
    | WEBHOOK_TOKEN =>
      obtain ⟨config, loaded, token⟩ := inUse
      have read := makeWebhookProcessorConfig_ok loaded
      rw [token] at read
      exact listed_of_webhookToken listed named set read
    | MESSAGES_PASSWORD =>
      obtain ⟨config, loaded, password⟩ := inUse
      have read := (makeConfig_ok loaded).2.2
      have found : host.envOrFile "MESSAGES_PASSWORD" = .ok (some value) := (setTo_iff.mp set).1
      rw [password, found] at read
      cases read
      exact ⟨_, named, lists_of_setTo set⟩
    | EXECUTION_NODE =>
      obtain ⟨config, loaded, inside⟩ := inUse
      obtain ⟨⟨message, read⟩, _⟩ := makeConfig_ok loaded
      exact ⟨_, named, lists_of_url_list (by decide) read inside⟩
    | CONSENSUS_NODE =>
      obtain ⟨config, loaded, inside⟩ := inUse
      obtain ⟨_, ⟨message, read⟩, _⟩ := makeConfig_ok loaded
      exact ⟨_, named, lists_of_url_list (by decide) read inside⟩

end Secrets

/-! ### A token from a file -/

namespace TokenFile

/-- The token is named, and comes from a file with the text. -/
def host (content : String) : Host where
  env name :=
    if name = "LOGGER_SECRETS" then some "[\"WEBHOOK_TOKEN\"]"
    else if name = "WEBHOOK_TOKEN_FILE" then some "/run/secrets/webhook_token"
    else none
  readFileSync path := if path = "/run/secrets/webhook_token" then some content else none

theorem parse_entries :
    Json.parse "[\"WEBHOOK_TOKEN\"]" = some (.array [.string "WEBHOOK_TOKEN"]) := by
  have printed : Json.stringify JsNumber.toText (.array [.string "WEBHOOK_TOKEN"]) =
      "[\"WEBHOOK_TOKEN\"]" := by decide +kernel
  rw [← printed]
  exact Json.parse_stringify ⟨trivial, trivial⟩

variable (content : String)

theorem loggerSecrets_host : (host content).loggerSecrets = .ok ["WEBHOOK_TOKEN"] := by
  have entries : (host content).unknown "LOGGER_SECRETS" = some (.string "[\"WEBHOOK_TOKEN\"]") := rfl
  unfold Host.loggerSecrets json_arr makeJson
  rw [entries]
  dsimp only
  rw [parse_entries]
  rfl

theorem fromFile_host : (host content).FromFile "WEBHOOK_TOKEN" content :=
  ⟨rfl, "/run/secrets/webhook_token", rfl, rfl⟩

theorem named_host : (host content).Named "WEBHOOK_TOKEN" :=
  ⟨_, loggerSecrets_host content, List.mem_singleton_self _⟩

theorem makeLoggerConfig_host (filled : content ≠ "") :
    (host content).makeLoggerConfig = .ok ⟨.info, .simple, [content]⟩ := by
  have level : Validator.optional (level_attr ((host content).unknown "LOGGER_LEVEL")) = .ok none := rfl
  have format : Validator.optional (log_format ((host content).unknown "LOGGER_FORMAT")) = .ok none := rfl
  have resolved : (host content).resolveLoggerSecretValues "WEBHOOK_TOKEN" = .ok [content] := by
    have found : (host content).envOrFile "WEBHOOK_TOKEN" = .ok (some content) := rfl
    have set : (some content).filter (· ≠ "") = some content := by simp [filled]
    unfold Host.resolveLoggerSecretValues
    rw [found]
    refine except_bind_ok.mpr ⟨some content, rfl, ?_⟩
    rw [set]
    exact if_neg (by decide)
  have values : ["WEBHOOK_TOKEN"].mapM (host content).resolveLoggerSecretValues = .ok [[content]] := by
    rw [List.mapM_cons, resolved]
    rfl
  unfold Host.makeLoggerConfig
  rw [level, format, loggerSecrets_host]
  show (["WEBHOOK_TOKEN"].mapM (host content).resolveLoggerSecretValues >>= _) = _
  rw [values]
  rfl

theorem makeWebhookProcessorConfig_host : (host content).makeWebhookProcessorConfig =
    .ok ⟨.int 10000, .int 0, some (Host.trimmed content), "Authorization"⟩ := by
  have token := webhookToken_of_fromFile (fromFile_host content)
  have timeout : Validator.optional (num ((host content).unknown "WEBHOOK_ABORT_TIMEOUT_MS")) = .ok none := rfl
  have retries : Validator.optional (num ((host content).unknown "WEBHOOK_MAX_RETRIES")) = .ok none := rfl
  unfold Host.makeWebhookProcessorConfig
  rw [timeout, retries, token]
  rfl

/-- A token without white space around it is a secret. -/
theorem secretsAgree_clean : (host "secret-token").SecretsAgree := by
  refine (secretsAgree_iff (makeLoggerConfig_host "secret-token" (by decide))
    (makeWebhookProcessorConfig_host "secret-token")).mpr fun content _ file _ => .inl ?_
  obtain ⟨_, path, named, found⟩ := file
  cases named
  cases found
  decide

/-- **A token with a line break behind it** is used without the line break, and listed with it. -/
theorem secrets_disagree : ¬ ∀ host : Host, host.SecretsAgree := by
  intro claim
  have secret := claim (host "secret-token-from-file\n") _ (makeLoggerConfig_host _ (by decide))
    .WEBHOOK_TOKEN (named_host _) ⟨_, by decide, .inr (fromFile_host _)⟩ "secret-token-from-file"
    ⟨_, makeWebhookProcessorConfig_host _, by decide⟩
  exact absurd secret (by decide)

end TokenFile

end ValidatorEjector
