import Blockflow.Block.Standard
import Blockflow.Gateway.Service
import Blockflow.Provider.Stack
import Blockflow.Tools.ApiRequest

/-!
# Deployments

Settings say which models, credentials, keys and limits there are.  What they come to is an engine
with the standard executors, the built-in tools and a checker, and a gateway in front of it.

* **`Settings.deployedEngine`** — the engine of a deployment.
* `Settings.deployedGateway`, `Settings.gatewayState` — its gateway, with nothing counted yet.
-/

namespace Blockflow.Settings

/-- **The engine of a deployment**; every provider has to be known. -/
def deployedEngine (s : Settings) (jitter : Retry.Jitter) : Except Error Engine := do
  let client ← s.client jitter
  let invoker : Invoker :=
    { toolbox := Toolbox.builtins, credentials := some (.ofSettings s.credentials) }
  return { executors := .standard
             { client, invoker, model := s.model, maxToolRounds := s.engine.maxToolRounds }
           checker := some (.ofSettings client s.model s.engine.checker)
           config := s.engine }

/-- The gateway in front of an engine: agents and history are in the store. -/
def deployedGateway (s : Settings) (engine : Engine) : Gateway :=
  { engine, apiKeys := s.gateway.apiKeys }

/-- What a gateway begins with. -/
def gatewayState (s : Settings) (store : Store) : GatewayState :=
  { store, limiter := { limit := s.limits.maxExecutionsPerDay } }

end Blockflow.Settings
