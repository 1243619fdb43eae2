import Blockflow.Error
import Blockflow.Settings.Basic
import Blockflow.Settings.Environment
import Blockflow.Toml.Document
import Blockflow.Toml.Printer

/-!
# Settings as documents

The settings of a deployment are read from a document in which references to the environment are
replaced first.  Without a document the environment alone tells which model to ask.

* **`Settings.ofDocument`** — the settings of a document.
* `Settings.ofEnvironment` — the settings without one.
* `Settings.defaultPath`, `Settings.storePath` — where the document and the store are.
* `Settings.document` — the settings, written.
-/

namespace Blockflow

namespace Settings

/-! ## Reading -/

/-- **The settings of a document.** -/
def ofDocument (env : Environment) (source : String) : Except Error Settings :=
  match Toml.Document.read (env.expand source) with
  | none => .error (.config "malformed document")
  | some d => (Settings.codec.ofSettings d).mapError Error.config

/-- The settings without a document. -/
def ofEnvironment (env : Environment) : Settings :=
  { model :=
      { modelId := (Table.get? env "WEFT_MODEL").getD "gpt-4o"
        apiKey := Table.get? env "OPENAI_API_KEY" } }

/-- Where the document is looked for in the home directory. -/
def defaultPath (env : Environment) : Option String :=
  env.home?.map fun home =>
    Environment.joinPath (Environment.joinPath home ".weft") "config.toml"

/-- Where the store is. -/
def storePath (s : Settings) (env : Environment) : String := env.inHome s.store.path

end Settings

/-! ## Writing -/

open Toml (Value)

/-- A member, unless it is missing. -/
def optionalMember (key : String) (v : Option Value) : List (String × Value) :=
  v.toList.map fun v => (key, v)

/-- Retry settings as a table. -/
def RetryConfig.table (r : RetryConfig) : Value :=
  .table
    [("max_retries", .int r.maxRetries), ("initial_backoff_ms", .int r.initialBackoffMs),
      ("max_backoff_ms", .int r.maxBackoffMs)]

/-- Model settings as a table; the temperature is written by its exact value. -/
def ModelConfig.table (m : ModelConfig) : Value :=
  .table <|
    [("provider", .text m.provider), ("model_id", .text m.modelId)] ++
      optionalMember "api_key" (m.apiKey.map .text) ++
      optionalMember "base_url" (m.baseUrl.map .text) ++
      [("max_tokens", .int m.maxTokens), ("temperature", .float (m.temperature.convert .double))] ++
      optionalMember "retry" (m.retry.map RetryConfig.table)

/-- Engine settings as a table. -/
def EngineConfig.table (e : EngineConfig) : Value :=
  .table
    [("default_block_timeout_secs", .int e.defaultBlockTimeoutSecs),
      ("max_block_timeout_secs", .int e.maxBlockTimeoutSecs),
      ("max_tool_rounds", .int e.maxToolRounds), ("update_buffer", .int e.updateBuffer),
      ("result_policy", .text e.resultPolicy.word),
      ("checker", .table
        [("default_model_id", .text e.checker.defaultModelId),
          ("authoritative", .bool e.checker.authoritative),
          ("timeout_secs", .int e.checker.timeoutSecs)])]

/-- Gateway settings as a table. -/
def GatewayConfig.table (g : GatewayConfig) : Value :=
  .table
    [("bind", .text g.bind),
      ("api_keys", .array (g.apiKeys.map fun k => .table
        [("name", .text k.name), ("key", .text k.key), ("user_id", .text k.userId)]))]

/-- A credential as a table, unless it holds a null. -/
def CredentialConfig.table? (c : CredentialConfig) : Option Value :=
  (Value.ofMembers c.data).map fun data => .table
    [("user_id", .text c.userId), ("integration_type", .text c.integrationType),
      ("name", .text c.name), ("data", .table data)]

/-- **The settings, written as a document.**  A null in a credential cannot be written. -/
def Settings.document (s : Settings) : Except String String :=
  match s.credentials.mapM CredentialConfig.table? with
  | none => .error "unsupported unit type"
  | some credentials => .ok <| Value.document
      [("model", s.model.table),
        ("fallback_models", .array (s.fallbackModels.map ModelConfig.table)),
        ("engine", s.engine.table), ("gateway", s.gateway.table),
        ("limits", .table [("max_executions_per_day", .int s.limits.maxExecutionsPerDay)]),
        ("store", .table [("path", .text s.store.path)]), ("credentials", .array credentials)]

end Blockflow
