import Blockflow.Error
import Blockflow.Execution.Basic

/-!
# The store

Agents and the history of their runs are kept in two lists of rows.  What has structure of its
own — workflows, inputs, responses — is kept as JSON text, so that reading a row back decodes the
text again.

An agent belongs to the user who saved it first.  Its workflow is numbered: every change of its
structure makes a new version, whatever number the caller gives.

* `AgentRow`, `ExecutionRow`, `Store` — the rows.
* **`Store.saveAgent`**, `Store.getAgent`, `Store.listAgents`, `Store.deleteAgent` — agents.
* **`Store.createExecution`**, `Store.completeExecution`, `Store.getExecution`,
  `Store.listExecutions` — the history.
-/

namespace Blockflow

/-! ## Rows -/

/-- An agent as it is kept. -/
structure AgentRow where
  id : String
  userId : String
  name : String
  description : String
  workflow : Option String
  deriving DecidableEq, Repr, Inhabited

/-- A run as it is kept. -/
structure ExecutionRow where
  id : String
  agentId : String
  userId : String
  status : ExecutionStatus
  input : String
  response : Option String := none
  startedAt : Timestamp
  completedAt : Option Timestamp := none
  deriving DecidableEq, Repr, Inhabited

/-- Agents and runs, in the order in which they were added. -/
structure Store where
  agents : List AgentRow := []
  executions : List ExecutionRow := []
  deriving DecidableEq, Repr, Inhabited

/-- The value of a kept text. -/
def kept {α : Type} (c : Json.Codec α) (source : String) : Except Error α :=
  (c.ofText source).mapError Error.json

/-- The value of a kept text, if there is one. -/
def kept? {α : Type} (c : Json.Codec α) : Option String → Except Error (Option α)
  | none => .ok none
  | some source => (kept c source).map some

namespace AgentRow

/-- An agent as a row. -/
def ofAgent (a : Agent) : AgentRow :=
  { id := a.id
    userId := a.userId
    name := a.name
    description := a.description
    workflow := a.workflow.map fun w => (Workflow.codec.write w).compact }

/-- The agent of a row. -/
def agent (r : AgentRow) : Except Error Agent :=
  (kept? Workflow.codec r.workflow).map fun workflow =>
    { id := r.id, userId := r.userId, name := r.name, description := r.description, workflow }

end AgentRow

namespace ExecutionRow

/-- A record as a row. -/
def ofRecord (r : ExecutionRecord) : ExecutionRow :=
  { id := r.id
    agentId := r.agentId
    userId := r.userId
    status := r.status
    input := (Json.object r.input).compact
    response := r.response.map fun x => (ExecutionResponse.codec.write x).compact
    startedAt := r.startedAt
    completedAt := r.completedAt }

/-- The record of a row. -/
def record (r : ExecutionRow) : Except Error ExecutionRecord := do
  let input ← kept Json.Codec.object r.input
  let response ← kept? ExecutionResponse.codec r.response
  return { id := r.id
           agentId := r.agentId
           userId := r.userId
           status := r.status
           input
           startedAt := r.startedAt
           completedAt := r.completedAt
           response }

end ExecutionRow

namespace Store

/-! ## Agents -/

/-- The row of an agent. -/
def agentRow? (s : Store) (id : String) : Option AgentRow := s.agents.find? fun r => r.id = id

/-- The number of a workflow that is saved after another one. -/
def nextVersion (previous : Option Workflow) (w : Workflow) : Nat :=
  match previous with
  | some old =>
    if w.structureDiffers old then (old.version + 1) % (Json.maxInteger + 1) else old.version
  | none => max w.version 1

/-- The workflow saved last under an agent's id, if the agent belongs to the user who saves. -/
def previousWorkflow (s : Store) (a : Agent) : Except Error (Option Workflow) :=
  match s.agentRow? a.id with
  | none => .ok none
  | some r =>
    if r.userId = a.userId then kept? Workflow.codec r.workflow
    else .error (.validation ("agent " ++ a.id ++ " belongs to another user"))

/-- The rows with one put in place of the row of its id, or added. -/
def putAgent (s : Store) (row : AgentRow) : Store :=
  if (s.agentRow? row.id).isSome then
    { s with agents := s.agents.map fun r => if r.id = row.id then row else r }
  else { s with agents := s.agents ++ [row] }

/-- **Saves an agent** under the number its workflow gets. -/
def saveAgent (s : Store) (a : Agent) : Except Error (Store × Agent) := do
  let previous ← s.previousWorkflow a
  let workflow := a.workflow.map fun w => { w with version := nextVersion previous w }
  let saved := { a with workflow }
  return (s.putAgent (.ofAgent saved), saved)

/-- The agent of an id, if it belongs to the user. -/
def getAgent (s : Store) (id userId : String) : Except Error Agent :=
  match (s.agentRow? id).filter fun r => r.userId = userId with
  | some r => r.agent
  | none => .error (.agentNotFound id)

/-- A user's agents by name. -/
def listAgents (s : Store) (userId : String) : Except Error (List Agent) :=
  let rows := s.agents.filter fun r => r.userId = userId
  (rows.mergeSort fun a b => decide (a.name ≤ b.name)).mapM AgentRow.agent

/-- Deletes a user's agent with its history, and tells whether there was one. -/
def deleteAgent (s : Store) (id userId : String) : Store × Bool :=
  if s.agents.any fun r => r.id = id && r.userId = userId then
    ({ agents := s.agents.filter fun r => !(r.id = id && r.userId = userId)
       executions := s.executions.filter fun r => r.agentId ≠ id }, true)
  else (s, false)

/-! ## The history -/

/-- **Writes down that a run starts.**  Reserved keys are left out of its input. -/
def createExecution (s : Store) (id agentId userId : String) (input : Json.Object)
    (now : Timestamp) : Store × ExecutionRecord :=
  let record : ExecutionRecord :=
    { id, agentId, userId, status := .running, input := stripReserved input, startedAt := now }
  ({ s with executions := s.executions ++ [.ofRecord record] }, record)

/-- **Writes down how a run ended.** -/
def completeExecution (s : Store) (id : String) (response : ExecutionResponse)
    (now : Timestamp) : Except Error Store :=
  if s.executions.any fun r => r.id = id then
    .ok { s with
      executions := s.executions.map fun r =>
        if r.id = id then
          { r with
            status := response.status
            response := some (ExecutionResponse.codec.write response).compact
            completedAt := some now }
        else r }
  else .error (.database ("execution " ++ id ++ " not found"))

/-- The record of a run, if there is one. -/
def getExecution (s : Store) (id : String) : Except Error (Option ExecutionRecord) :=
  match s.executions.find? fun r => r.id = id with
  | some r => r.record.map some
  | none => .ok none

/-- The latest runs of an agent, the latest first. -/
def listExecutions (s : Store) (agentId : String) (limit : Nat) :
    Except Error (List ExecutionRecord) :=
  let rows := (s.executions.filter fun r => r.agentId = agentId).reverse
  ((rows.mergeSort fun a b => b.startedAt.notAfter a.startedAt).take limit).mapM
    ExecutionRow.record

end Store

end Blockflow
