import Blockflow.Execution.Basic
import Blockflow.Activity

/-!
# Running one block

Each kind of block is run by an executor: an activity from the block and its inputs to its outputs.
An executor may end in an error, and one that is faulty may crash.

* `BlockContext` — what an executor is told beside the block and its inputs.
* `BlockOutput`, `Ending` — what comes out.
* `Executor`, `Executors` — the executors of a deployment, by kind of block.
* `ModelClient` — how an executor reaches a model.
-/

namespace Blockflow

/-- What an executor is told beside the block and its inputs.  Models never see the user. -/
structure BlockContext where
  executionId : String
  blockId : String
  userId : Option String := none
  cancelled : Bool := false
  deriving DecidableEq, Repr, Inhabited

/-- What a block produced. -/
structure BlockOutput where
  outputs : Json.Object := []
  usage : TokenUsage := {}
  deriving BEq, Repr, Inhabited

/-- How an executor ends: with a result, or by a crash that may say why. -/
inductive Ending where
  | returned (result : Except Error BlockOutput)
  | crashed (reason : Option String)

/-- The result of an ending; a crash is an internal error. -/
def Ending.result : Ending → Except Error BlockOutput
  | .returned r => r
  | .crashed reason => .error (.internal ("executor panicked: " ++ reason.getD "unknown panic"))

/-- Runs blocks of one kind. -/
abbrev Executor := Block → Json.Object → BlockContext → Activity Ending

/-- The executors of a deployment.  Of several for one kind the first counts. -/
structure Executors where
  entries : List (BlockType × Executor) := []

namespace Executors

/-- Adds an executor, in place of an earlier one for its kind. -/
def register (e : Executors) (type : BlockType) (executor : Executor) : Executors :=
  ⟨(type, executor) :: e.entries.filter fun x => x.1 ≠ type⟩

/-- The executor for a kind. -/
def find (e : Executors) (type : BlockType) : Except Error Executor :=
  match e.entries.find? fun x => x.1 = type with
  | some x => .ok x.2
  | none => .error (.unknownBlockType type.word)

/-- Whether there is an executor for a kind. -/
def contains (e : Executors) (type : BlockType) : Bool := e.entries.any fun x => x.1 = type

/-- The kinds with an executor. -/
def types (e : Executors) : List BlockType := BlockType.all.filter e.contains

end Executors

/-- How a model is reached. -/
abbrev ModelClient := ModelRequest → Activity (Except Error Stream)

end Blockflow
