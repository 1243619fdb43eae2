import Blockflow.Workflow.Codec

/-!
# Settings

What a deployment chooses: the models, the engine's limits, who may connect, how many runs a user
has a day, where agents are kept, and the credentials of its users.

* `ModelConfig`, `RetryConfig` — a model and how failed calls are repeated.
* `EngineConfig`, `CheckerConfig`, `ResultPolicy` — the engine.
* `GatewayConfig`, `LimitsConfig`, `StoreConfig`, `CredentialConfig` — the surroundings.
* `Settings` — all of it, with a codec for each part.
-/

namespace Blockflow

open Json

/-! ## Models -/

/-- How often a failed call is repeated, and how long to wait before. -/
structure RetryConfig where
  maxRetries : Nat := 3
  initialBackoffMs : Nat := 1000
  maxBackoffMs : Nat := 30000
  deriving DecidableEq, Repr, Inhabited

/-- Retry settings as they are written. -/
def RetryConfig.codec : Codec RetryConfig :=
  .record "struct RetryConfig"
    (.defaulted "max_retries" .u32 3 <|
      .defaulted "initial_backoff_ms" .u64 1000 <|
      .defaulted "max_backoff_ms" .u64 30000 .done)
    (fun (maxRetries, initial, limit, ()) => ⟨maxRetries, initial, limit⟩)
    (fun r => (r.maxRetries, r.initialBackoffMs, r.maxBackoffMs, ()))

/-- Which model to ask, and how. -/
structure ModelConfig where
  provider : String := "openai"
  modelId : String
  apiKey : Option String := none
  baseUrl : Option String := none
  maxTokens : Nat := 4096
  temperature : Single := ⟨false, 0⟩
  retry : Option RetryConfig := none
  deriving DecidableEq, Repr, Inhabited

namespace ModelConfig

/-- The same settings pointed at another model. -/
def withModel (c : ModelConfig) (modelId : String) : ModelConfig := { c with modelId }

/-- Model settings as they are written. -/
def codec : Codec ModelConfig :=
  .record "struct ModelConfig"
    (.defaulted "provider" .text "openai" <|
      .required "model_id" .text <|
      .defaulted "api_key" (.option .text) none <|
      .defaulted "base_url" (.option .text) none <|
      .defaulted "max_tokens" .u32 4096 <|
      .defaulted "temperature" .shortSingle ⟨false, 0⟩ <|
      .defaulted "retry" (.option RetryConfig.codec) none .done)
    (fun (provider, modelId, apiKey, baseUrl, maxTokens, temperature, retry, ()) =>
      ⟨provider, modelId, apiKey, baseUrl, maxTokens, temperature, retry⟩)
    (fun c => (c.provider, c.modelId, c.apiKey, c.baseUrl, c.maxTokens, c.temperature, c.retry,
      ()))

end ModelConfig

/-! ## The engine -/

/-- Which block's output becomes the result of a run: the last block without outgoing
connections, or the blocks marked for it. -/
inductive ResultPolicy where
  | lastSink
  | designatedOutput
  deriving DecidableEq, Repr, Inhabited

/-- The word for a policy. -/
def ResultPolicy.word : ResultPolicy → String
  | .lastSink => "last_sink"
  | .designatedOutput => "designated_output"

/-- Policies travel as their words. -/
def ResultPolicy.codec : Codec ResultPolicy :=
  .words [("last_sink", .lastSink), ("designated_output", .designatedOutput)] ResultPolicy.word

/-- Settings of the block checker. -/
structure CheckerConfig where
  defaultModelId : String := "gpt-4o-mini"
  authoritative : Bool := false
  timeoutSecs : Nat := 15
  deriving DecidableEq, Repr, Inhabited

/-- Checker settings as they are written. -/
def CheckerConfig.codec : Codec CheckerConfig :=
  .record "struct CheckerConfig"
    (.defaulted "default_model_id" .text "gpt-4o-mini" <|
      .defaulted "authoritative" .bool false <|
      .defaulted "timeout_secs" .u64 15 .done)
    (fun (modelId, authoritative, timeoutSecs, ()) => ⟨modelId, authoritative, timeoutSecs⟩)
    (fun c => (c.defaultModelId, c.authoritative, c.timeoutSecs, ()))

/-- Settings of the engine. -/
structure EngineConfig where
  defaultBlockTimeoutSecs : Nat := 30
  maxBlockTimeoutSecs : Nat := 60
  maxToolRounds : Nat := 5
  updateBuffer : Nat := 100
  resultPolicy : ResultPolicy := .lastSink
  checker : CheckerConfig := {}
  deriving DecidableEq, Repr, Inhabited

/-- Engine settings as they are written. -/
def EngineConfig.codec : Codec EngineConfig :=
  .record "struct EngineConfig"
    (.defaulted "default_block_timeout_secs" .u64 30 <|
      .defaulted "max_block_timeout_secs" .u64 60 <|
      .defaulted "max_tool_rounds" .size 5 <|
      .defaulted "update_buffer" .size 100 <|
      .defaulted "result_policy" ResultPolicy.codec .lastSink <|
      .defaulted "checker" CheckerConfig.codec {} .done)
    (fun (defaultTimeout, maxTimeout, rounds, buffer, policy, checker, ()) =>
      ⟨defaultTimeout, maxTimeout, rounds, buffer, policy, checker⟩)
    (fun c => (c.defaultBlockTimeoutSecs, c.maxBlockTimeoutSecs, c.maxToolRounds, c.updateBuffer,
      c.resultPolicy, c.checker, ()))

/-! ## The surroundings -/

/-- A key that opens the gateway, and the user its bearer is. -/
structure ApiKeyConfig where
  name : String
  key : String
  userId : String
  deriving DecidableEq, Repr, Inhabited

/-- Keys as they are written. -/
def ApiKeyConfig.codec : Codec ApiKeyConfig :=
  .record "struct ApiKeyConfig"
    (.required "name" .text <| .required "key" .text <| .required "user_id" .text .done)
    (fun (name, key, userId, ()) => ⟨name, key, userId⟩)
    (fun k => (k.name, k.key, k.userId, ()))

/-- Where the gateway listens, and who may connect. -/
structure GatewayConfig where
  bind : String := "127.0.0.1:18790"
  apiKeys : List ApiKeyConfig := []
  deriving DecidableEq, Repr, Inhabited

/-- Gateway settings as they are written. -/
def GatewayConfig.codec : Codec GatewayConfig :=
  .record "struct GatewayConfig"
    (.defaulted "bind" .text "127.0.0.1:18790" <|
      .defaulted "api_keys" (.list ApiKeyConfig.codec) [] .done)
    (fun (bind, apiKeys, ()) => ⟨bind, apiKeys⟩) (fun g => (g.bind, g.apiKeys, ()))

/-- How many runs a user has a day; a negative number is no limit. -/
structure LimitsConfig where
  maxExecutionsPerDay : Int := -1
  deriving DecidableEq, Repr, Inhabited

/-- Limits as they are written. -/
def LimitsConfig.codec : Codec LimitsConfig :=
  .record "struct LimitsConfig" (.defaulted "max_executions_per_day" .i64 (-1) .done)
    (fun (n, ()) => ⟨n⟩) (fun l => (l.maxExecutionsPerDay, ()))

/-- Where agents are kept. -/
structure StoreConfig where
  path : String := "~/.weft/weft.db"
  deriving DecidableEq, Repr, Inhabited

/-- Store settings as they are written. -/
def StoreConfig.codec : Codec StoreConfig :=
  .record "struct StoreConfig" (.defaulted "path" .text "~/.weft/weft.db" .done)
    (fun (path, ()) => ⟨path⟩) (fun s => (s.path, ()))

/-- A user's credential for an integration. -/
structure CredentialConfig where
  userId : String
  integrationType : String
  name : String := ""
  data : Json.Object := []
  deriving BEq, Repr, Inhabited

/-- Credential settings as they are written. -/
def CredentialConfig.codec : Codec CredentialConfig :=
  .record "struct CredentialConfig"
    (.required "user_id" .text <|
      .required "integration_type" .text <|
      .defaulted "name" .text "" <|
      .defaulted "data" .object [] .done)
    (fun (userId, integrationType, name, data, ()) => ⟨userId, integrationType, name, data⟩)
    (fun c => (c.userId, c.integrationType, c.name, c.data, ()))

/-! ## All settings -/

/-- The settings of a deployment. -/
structure Settings where
  model : ModelConfig
  fallbackModels : List ModelConfig := []
  engine : EngineConfig := {}
  gateway : GatewayConfig := {}
  limits : LimitsConfig := {}
  store : StoreConfig := {}
  credentials : List CredentialConfig := []
  deriving BEq, Repr, Inhabited

/-- Settings as they are written. -/
def Settings.codec : Codec Settings :=
  .record "struct Settings"
    (.required "model" ModelConfig.codec <|
      .defaulted "fallback_models" (.list ModelConfig.codec) [] <|
      .defaulted "engine" EngineConfig.codec {} <|
      .defaulted "gateway" GatewayConfig.codec {} <|
      .defaulted "limits" LimitsConfig.codec {} <|
      .defaulted "store" StoreConfig.codec {} <|
      .defaulted "credentials" (.list CredentialConfig.codec) [] .done)
    (fun (model, fallbackModels, engine, gateway, limits, store, credentials, ()) =>
      ⟨model, fallbackModels, engine, gateway, limits, store, credentials⟩)
    (fun s => (s.model, s.fallbackModels, s.engine, s.gateway, s.limits, s.store, s.credentials,
      ()))

end Blockflow
