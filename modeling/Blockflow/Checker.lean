import Blockflow.Block.Basic
import Blockflow.Structured
import Blockflow.Turn

/-!
# Checking blocks

After a block has produced its outputs a small model may be asked whether the block did what it
is for.  The check is best effort: a checker that cannot be reached, that takes too long or that
says nothing intelligible never harms the block it looks at.

* `Verdict`, `Verdict.ofAnswer` — the judgment, and how it is read from an answer.
* `Checker.prompt` — what the model is asked.
* **`Checker.check`** — the judgment of one block, if there is one, and what it cost.
-/

namespace Blockflow

/-- A judgment on one block. -/
structure Verdict where
  passed : Bool
  reason : String := ""
  deriving DecidableEq, Repr, Inhabited

namespace Verdict

/-- Verdicts as a model writes them. -/
def codec : Json.Codec Verdict :=
  .record "struct CheckerResponse" (.required "passed" .bool <| .defaulted "reason" .text "" .done)
    (fun (passed, reason, ()) => ⟨passed, reason⟩) (fun v => (v.passed, v.reason, ()))

/-- The verdict of an answer; an unintelligible answer lets the block pass. -/
def ofAnswer (answer : String) : Verdict :=
  match codec.ofText (Structured.extract answer) with
  | .ok v => v
  | .error _ => { passed := true }

end Verdict

/-- What a check produced.  Without a verdict the block is left as it is. -/
structure CheckOutcome where
  verdict : Option Verdict := none
  usage : TokenUsage := {}
  deriving DecidableEq, Repr, Inhabited

/-- What a run wants its checks to know: its goal, and the model to ask instead of the configured
one. -/
structure CheckGoal where
  goal : Option String := none
  model : Option String := none
  deriving DecidableEq, Repr, Inhabited

/-- A model that checks blocks. -/
structure Checker where
  client : ModelClient
  model : ModelConfig
  timeoutSecs : Nat

namespace Checker

/-- The checker that the settings describe. -/
def ofSettings (client : ModelClient) (base : ModelConfig) (c : CheckerConfig) : Checker :=
  { client, model := base.withModel c.defaultModelId, timeoutSecs := c.timeoutSecs }

/-! ## The question -/

/-- The most characters of inputs or outputs that a question shows. -/
def sectionLimit : Nat := 4000

/-- Inputs or outputs as a question shows them. -/
def shownMembers (members : Json.Object) : String :=
  let cs := (Json.object (stripReserved members)).pretty.toList
  if sectionLimit < cs.length then String.ofList (cs.take sectionLimit) ++ "\n... (truncated)"
  else String.ofList cs

/-- The line that tells the goal of the run, if it has one. -/
def goalLine (goal : Option String) : String :=
  match goal.filter fun g => !g.isEmpty with
  | some g => "Workflow goal: " ++ g ++ "\n\n"
  | none => ""

/-- **The question about a block.** -/
def prompt (block : Block) (inputs outputs : Json.Object) (goal : Option String) : String :=
  "You are checking whether one step of an automated workflow did its job.\n\n" ++ goalLine goal ++
    "Step: " ++ block.name ++ " (" ++ block.type.word ++ ")\nStep intent: " ++ block.intent ++
    "\n\nInputs the step received:\n" ++ shownMembers inputs ++
    "\n\nOutput the step produced:\n" ++ shownMembers outputs ++
    "\n\nDid the step accomplish its intent given its inputs? Respond with ONLY valid JSON:\n" ++
    "\x7b\"passed\": true | false, \"reason\": \"brief explanation\"\x7d"

/-- The model a check asks. -/
def modelFor (c : Checker) (model : Option String) : ModelConfig :=
  match model.filter fun id => !id.isEmpty with
  | some id => c.model.withModel id
  | none => c.model

/-! ## The check -/

/-- The checking model's turn. -/
def askTurn (c : Checker) (request : ModelRequest) : Activity (Except Error Turn) := do
  let stream ← c.client request
  return stream.bind Turn.collect

/-- What a check makes of the turn it got, if it got one in time. -/
def judge : Option (Except Error Turn) → CheckOutcome
  | some (.ok turn) => { verdict := some (.ofAnswer turn.text), usage := turn.usage }
  | _ => {}

/-- **Checks one block.** -/
def check (c : Checker) (block : Block) (inputs outputs : Json.Object) (about : CheckGoal) :
    Activity CheckOutcome := do
  let question := ChatMessage.ofText .user (prompt block inputs outputs about.goal)
  let turn ← (c.askTurn ⟨c.modelFor about.model, [question], [], .json⟩).timeout
    (c.timeoutSecs * 1000)
  return judge turn

end Checker

end Blockflow
