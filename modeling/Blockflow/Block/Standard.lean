import Blockflow.Block.Conversation
import Blockflow.Block.ToolCall
import Blockflow.Block.Variable

/-!
# The standard executors

Every deployment runs the same three kinds of block; what differs between deployments is the
model and the tools.

* **`Executors.standard`** — an executor for each kind of block.
-/

namespace Blockflow

/-- **The executors of all kinds of block.** -/
def Executors.standard (shared : ModelBlocks) : Executors :=
  ⟨[(.variable, VariableBlock.executor), (.codeBlock, ToolBlock.executor shared.invoker),
    (.llmInference, ModelBlock.executor shared)]⟩

end Blockflow
