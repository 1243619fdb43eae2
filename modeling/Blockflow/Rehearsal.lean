import Blockflow.Block.Basic
import Blockflow.Tools.Basic
import Blockflow.World

/-!
# Rehearsals

A workflow can be rehearsed before models and services are involved: a script speaks the models'
lines, and stand-ins take the places of tools and executors.

* `ScriptStep.answers`, `ScriptStep.asksFor` — whole answers of a model.
* **`Tool.echo`, `Tool.failing`, `Tool.slow`, `Tool.recording`, `Tool.staged`** — stand-ins for
  tools.
* `Executor.crashing`, `Executor.constant` — stand-ins for executors.
-/

namespace Blockflow

/-! ## Answers of models -/

namespace ScriptStep

/-- What every scripted answer costs. -/
def cost : TokenUsage := ⟨10, 5⟩

/-- An answer in words. -/
def answers (text : String) : ScriptStep :=
  .answer { deltas := [.text text, .stop .endTurn, .usage cost] }

/-- An answer that asks for a tool. -/
def asksFor (id tool : String) (input : Json) : ScriptStep :=
  .answer
    { deltas := [.toolStart 0 id tool, .toolInput 0 input.compact, .stop .toolUse, .usage cost] }

end ScriptStep

/-! ## Stand-ins for tools -/

namespace Tool

/-- The schema of any object. -/
def objectSchema : Json := .object [("type", .text "object")]

/-- The schema of an object with a text `body`. -/
def bodySchema : Json :=
  .object [("properties", .object [("body", .object [("type", .text "string")])]),
    ("type", .text "object")]

/-- A tool that answers with its input. -/
def echo (name : String) : Tool :=
  { definition := ⟨name, "Echo the input back.", objectSchema⟩
    run := fun input _ => return .ok { content := input.compact } }

/-- A tool that reports a failure. -/
def failing (name report : String) : Tool :=
  { definition := ⟨name, "Always fails.", objectSchema⟩
    run := fun _ _ => return .ok { content := report, isError := true } }

/-- A tool that takes its time, with an hour of it. -/
def slow (name : String) (ms : Nat) : Tool :=
  { definition := ⟨name, "Sleeps, then succeeds.", objectSchema⟩
    timeoutSecs := 3600
    run := fun _ _ => do
      Activity.wait ms
      return .ok { content := "done" } }

/-- A tool that keeps a record of its uses and always answers the same. -/
def recording (name : String) (integration : Option String) (response : String) : Tool :=
  { definition := ⟨name, "Records calls.", bodySchema⟩
    integration
    run := fun input context => do
      Activity.note ⟨name, input, context⟩
      return .ok { content := response } }

/-- A tool that keeps a record of its uses, takes its time, and then has a given outcome. -/
def staged (definition : ToolDefinition) (timeoutSecs : Nat) (integration : Option String)
    (ms : Nat) (outcome : Except Error ToolOutcome) : Tool :=
  { definition
    timeoutSecs
    integration
    run := fun input context => do
      Activity.note ⟨definition.name, input, context⟩
      if ms ≠ 0 then Activity.wait ms
      return outcome }

end Tool

/-! ## Stand-ins for executors -/

namespace Executor

/-- An executor that crashes, perhaps for a reason that can be told. -/
def crashing (reason : Option String) : Executor := fun _ _ _ => pure (.crashed reason)

/-- An executor that always returns the same outputs. -/
def constant (outputs : Json.Object) : Executor :=
  fun _ _ _ => pure (.returned (.ok { outputs }))

end Executor

end Blockflow
