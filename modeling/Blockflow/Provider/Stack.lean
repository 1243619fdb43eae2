import Blockflow.Provider.Completion
import Blockflow.Provider.Failover
import Blockflow.Provider.Pool
import Blockflow.Provider.Retry

/-!
# The client of a deployment

All providers known by name speak the language of chat completions.  A deployment's client
repeats failed calls, and fails over where the settings name other models.

* `Provider.known` — the providers.
* `Provider.clientFor` — the client of one model.
* **`Settings.client`** — the client of a deployment.
-/

namespace Blockflow

namespace Provider

/-- The known providers. -/
def known : List String :=
  ["openai", "azure-openai", "ollama", "groq", "openrouter", "together", "vllm", "custom"]

/-- The client of one model: it repeats failed calls as the model's settings say. -/
def clientFor (jitter : Retry.Jitter) (m : ModelConfig) : Except Error ModelClient :=
  if known.contains m.provider then
    .ok (Retry.client (m.retry.getD {}) jitter Completion.client)
  else .error (.unsupportedProvider m.provider)

end Provider

namespace Settings

/-- All models, the preferred one first. -/
def models (s : Settings) : List ModelConfig := s.model :: s.fallbackModels

/-- **The client of a deployment**; every provider has to be known. -/
def client (s : Settings) (jitter : Retry.Jitter) : Except Error ModelClient := do
  let clients ← s.models.mapM (Provider.clientFor jitter)
  let candidates := s.models.zipWith Candidate.mk clients
  match candidates with
  | [only] => return only.client
  | candidates => return Failover.client candidates

/-- The health of a deployment's models before anybody has tried them. -/
def poolHealth (s : Settings) : PoolHealth := .fresh s.models.length

end Settings

end Blockflow
