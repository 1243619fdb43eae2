import Blockflow.Gateway.Service
import Blockflow.Proofs.Table

/-!
# Prepared runs

What is prepared is what was asked for: by the same user, under the identifier that was given out.
The user's name goes into the input last, so that no name in the input takes its place, and the
engine does not refuse a run that was let pass.

* `Gateway.userId_of_prepare`, `Gateway.userId_inputFor` — whose run it is.
* `Gateway.assess` — what is found in the agent that was looked up.
* **`Gateway.launch_of_prepare`** — a prepared run can be launched.
-/

namespace Blockflow

namespace Gateway

variable {g : Gateway} {s : GatewayState} {o : Outages} {now : Timestamp} {id : String}
  {r : RunRequest} {run : PreparedRun}

/-- A prepared run is the one that was asked for, under the identifier it was given. -/
lemma userId_of_prepare (h : (g.prepare s o now id r).2 = .ok run) :
    run.executionId = id ∧ run.userId = r.userId := by
  rw [prepare] at h
  split at h
  · cases h
  · cases h
    exact ⟨rfl, rfl⟩

/-- The user of a run is the one in whose name it was prepared, whatever its input says. -/
lemma userId_inputFor (run : PreparedRun) :
    (Table.get? (inputFor run) userIdKey).bind Json.asText? = some run.userId := by
  rw [inputFor, Table.get?_insert_self]
  rfl

/-- The agent that was looked up, with the workflow that a run of it has. -/
def assess (g : Gateway) (found : Except Error Agent) : Except Error (Agent × Workflow) := do
  let agent ← found
  match agent.workflow with
  | none => .error .noWorkflow
  | some w =>
    discard (g.engine.validate w)
    return (agent, w)

/-- What speaks against a run is that nothing is left, or it is found in the agent. -/
lemma vet_eq_assess :
    g.vet s o now r =
      if isExhausted s o r.userId now.day then .error (.limiter "daily execution limit reached")
      else g.assess (g.agent s o r.agentId r.userId) := rfl

/-- An agent is let pass with a workflow that the engine can run. -/
lemma validate_of_assess {found : Except Error Agent} {agent : Agent} {w : Workflow}
    (h : g.assess found = .ok (agent, w)) : ∃ plan, g.engine.validate w = .ok plan := by
  cases found with
  | error e => cases h
  | ok a =>
      simp only [assess, bind, Except.bind] at h
      split at h
      · cases h
      · next w' _ =>
          cases hplan : g.engine.validate w' with
          | error e =>
              rw [hplan] at h
              cases h
          | ok plan =>
              rw [hplan] at h
              cases h
              exact ⟨plan, hplan⟩

/-- Whatever is let pass has a workflow that the engine can run. -/
lemma validate_of_vet {agent : Agent} {w : Workflow} (h : g.vet s o now r = .ok (agent, w)) :
    ∃ plan, g.engine.validate w = .ok plan := by
  rw [vet_eq_assess] at h
  split_ifs at h
  exact validate_of_assess h

/-- **The engine does not refuse a run that was prepared.** -/
lemma launch_of_prepare (h : (g.prepare s o now id r).2 = .ok run) (cancelled : Bool)
    (world : World) : ∃ frame schedule, g.launch run cancelled world = .ok (frame, schedule) := by
  rw [prepare] at h
  split at h
  · cases h
  · next hvet =>
      cases h
      obtain ⟨plan, hplan⟩ := validate_of_vet hvet
      rw [launch, Engine.launch, hplan]
      exact ⟨_, _, rfl⟩

end Gateway

end Blockflow
