import Blockflow.Block.Basic

/-!
# Failing over

A client for several models tries them in the order their health suggests, until one answers.
The preferred model is asked as the caller asks; the others as their own settings say.

* `Candidate` — a model with its settings.
* `Failover.tryAll` — the attempts of one call.
* **`Failover.client`** — the client.
-/

namespace Blockflow

/-- A model with its settings. -/
structure Candidate where
  config : ModelConfig
  client : ModelClient

namespace Failover

/-- The error when there is nothing to try. -/
def nothingToTry : Error := .llmRequest "No models available in pool"

/-- A request as it goes to a candidate. -/
def requestFor (request : ModelRequest) (index : Nat) (c : Candidate) : ModelRequest :=
  if index = 0 then request else { request with config := c.config }

/-- Tries candidates in turn until one answers; the last error stands if none does. -/
def tryAll (candidates : List Candidate) (request : ModelRequest) (last : Error) :
    List Nat → Activity (Except Error Stream)
  | [] => pure (.error last)
  | i :: rest =>
    match candidates[i]? with
    | none => tryAll candidates request last rest
    | some c => do
      match ← c.client (requestFor request i c) with
      | .ok s =>
        Activity.report i true
        return .ok s
      | .error e =>
        Activity.report i false
        tryAll candidates request e rest

/-- **The client for several models.** -/
def client (candidates : List Candidate) : ModelClient := fun request => do
  let order ← Activity.attempts
  tryAll candidates request nothingToTry order

end Failover

end Blockflow
