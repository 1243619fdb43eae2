import Blockflow.Block.Basic
import Blockflow.Template
import Blockflow.Tools.Invoker

/-!
# Tool blocks

A tool block calls one tool with arguments mapped from its inputs and emits the tool's text, and
what the text holds if it is an object or an array.

* `ToolBlock.arguments` — the arguments of the call.
* `ToolBlock.outputs` — what the block makes of the tool's text.
* **`ToolBlock.executor`** — the executor.
-/

namespace Blockflow.ToolBlock

/-- The arguments without a mapping: the input, if it is an object, or all inputs. -/
def defaultArguments (inputs : Json.Object) : Json :=
  match Table.get? inputs "input" with
  | some (.object ms) => .object (stripReserved ms)
  | _ => .object (stripReserved inputs)

/-- The arguments of the call. -/
def arguments (c : ToolBlockConfig) (inputs : Json.Object) : Json :=
  if c.argumentMapping.isEmpty then defaultArguments inputs
  else Template.resolveValue inputs (.object c.argumentMapping)

/-- What the block makes of the tool's text. -/
def outputs (result : String) : Json.Object :=
  let data : Json.Object := match Json.parse? result with
    | some (.object ms) => [("data", .object ms)]
    | some (.array xs) => [("data", .array xs)]
    | _ => []
  data ++ [("result", .text result)]

/-- **The executor of tool blocks.** -/
def executor (invoker : Invoker) : Executor := fun block inputs context =>
  match block.config with
  | .codeBlock c =>
    if c.toolName.isEmpty then
      pure (.returned (.error (.invalidInput ("block " ++ block.id ++ " has no toolName"))))
    else do
      let result ← invoker.invoke c.toolName (arguments c inputs)
        { executionId := context.executionId, blockId := block.id, userId := context.userId }
      return .returned (result.map fun s => { outputs := outputs s })
  | _ => pure (.returned (.error (.invalidInput ("block " ++ block.id ++ " is not a code block"))))

end Blockflow.ToolBlock
