import Blockflow.Store.Basic

/-!
# Stores as documents

Between two commands a store is kept as a JSON document of its rows.

* `AgentRow.codec`, `ExecutionRow.codec`, `Store.codec` — rows and stores as JSON.
-/

namespace Blockflow

open Json

/-- Rows of agents as JSON. -/
def AgentRow.codec : Codec AgentRow :=
  .record "an agent"
    (.required "id" .text <|
      .required "user_id" .text <|
      .required "name" .text <|
      .required "description" .text <|
      .optional "workflow" .text .done)
    (fun (id, userId, name, description, workflow, ()) => ⟨id, userId, name, description, workflow⟩)
    fun r => (r.id, r.userId, r.name, r.description, r.workflow, ())

/-- Rows of runs as JSON. -/
def ExecutionRow.codec : Codec ExecutionRow :=
  .record "a run"
    (.required "id" .text <|
      .required "agent_id" .text <|
      .required "user_id" .text <|
      .required "status" ExecutionStatus.codec <|
      .required "input" .text <|
      .optional "response" .text <|
      .required "started_at" Timestamp.codec <|
      .optional "completed_at" Timestamp.codec .done)
    (fun (id, agentId, userId, status, input, response, startedAt, completedAt, ()) =>
      ⟨id, agentId, userId, status, input, response, startedAt, completedAt⟩)
    fun r => (r.id, r.agentId, r.userId, r.status, r.input, r.response, r.startedAt,
      r.completedAt, ())

/-- Stores as JSON. -/
def Store.codec : Codec Store :=
  .record "a store"
    (.required "agents" (.list AgentRow.codec) <|
      .required "executions" (.list ExecutionRow.codec) .done)
    (fun (agents, executions, ()) => ⟨agents, executions⟩)
    fun s => (s.agents, s.executions, ())

end Blockflow
