import Blockflow.Error

/-!
# Workflows

A workflow is a graph of blocks.  A block sets or reads a variable, asks a language model, or
calls a tool; a connection carries a value from a named output of one block to a named input of
another.

* `BlockType`, `BlockConfig` — the three kinds of block and their settings.
* `Block`, `Connection`, `Workflow` — the graph, with `Workflow.incoming` and
  `Workflow.outgoing` for one block's connections.
* `Workflow.structureDiffers` — whether two workflows differ in more than name and version.
* `Agent` — a user's workflow together with its description.
* `isReserved`, `stripReserved` — the keys that only the engine may see.
-/

namespace Blockflow

/-! ## Reserved keys -/

/-- The hidden input that names the user a run belongs to. -/
def userIdKey : String := "__user_id__"

/-- Whether a key belongs to the engine: it starts with two underscores. -/
def isReserved (key : String) : Bool :=
  match key.toList with
  | '_' :: '_' :: _ => true
  | _ => false

/-- The members under keys that do not belong to the engine. -/
def stripReserved (members : Json.Object) : Json.Object :=
  members.filter fun m => !isReserved m.1

/-! ## Blocks -/

/-- The kinds of block. -/
inductive BlockType where
  | variable
  | llmInference
  | codeBlock
  deriving DecidableEq, Repr, Inhabited

namespace BlockType

/-- All kinds, in the order reports list them. -/
def all : List BlockType := [.variable, .llmInference, .codeBlock]

/-- The word for a kind. -/
def word : BlockType → String
  | .variable => "variable"
  | .llmInference => "llm_inference"
  | .codeBlock => "code_block"

/-- The kind named by a word. -/
def ofWord? (word : String) : Option BlockType := all.find? fun t => t.word = word

end BlockType

/-- What a variable block does with its value. -/
inductive VariableOperation where
  | set
  | read
  deriving DecidableEq, Repr, Inhabited

/-- The shape a variable's value is brought into. -/
inductive VariableShape where
  | text
  | file
  | json
  deriving DecidableEq, Repr, Inhabited

/-- The form a model is asked to answer in. -/
inductive ResponseFormat where
  | text
  | json
  deriving DecidableEq, Repr, Inhabited

/-- Settings of a block that sets or reads a variable. -/
structure VariableConfig where
  operation : VariableOperation := .read
  variableName : String := "input"
  shape : VariableShape := .text
  defaultValue : Option Json := none
  /-- The template that `set` fills in. -/
  value : Option String := none
  required : Bool := false
  deriving BEq, Repr, Inhabited

/-- Settings of a block that asks a language model. -/
structure ModelBlockConfig where
  model : Option String := none
  systemPrompt : Option String := none
  userPrompt : String := ""
  enabledTools : List String := []
  outputFormat : ResponseFormat := .text
  outputSchema : Option Json := none
  maxToolRounds : Option Nat := none
  temperature : Option Single := none
  deriving BEq, Repr, Inhabited

/-- Settings of a block that calls one tool. -/
structure ToolBlockConfig where
  toolName : String
  argumentMapping : Json.Object := []
  deriving BEq, Repr, Inhabited

/-- The settings of a block, which tell its kind. -/
inductive BlockConfig where
  | variable (config : VariableConfig)
  | llmInference (config : ModelBlockConfig)
  | codeBlock (config : ToolBlockConfig)
  deriving BEq, Repr, Inhabited

/-- The kind of block the settings are for. -/
def BlockConfig.type : BlockConfig → BlockType
  | .variable _ => .variable
  | .llmInference _ => .llmInference
  | .codeBlock _ => .codeBlock

/-- Where an editor draws a block. -/
structure Position where
  x : Double
  y : Double
  deriving BEq, Repr

/-- A node of the graph.  `normalizedId` is the name under which later blocks find its outputs;
a timeout of zero stands for the engine's own. -/
structure Block where
  id : String
  normalizedId : String
  name : String := ""
  description : String := ""
  config : BlockConfig
  timeout : Nat := 0
  position : Option Position := none
  isOutput : Bool := false
  deriving BEq, Repr, Inhabited

namespace Block

/-- The kind of the block. -/
def type (b : Block) : BlockType := b.config.type

/-- The timeout in force: the block's own or the default, and never above the limit. -/
def timeoutSeconds (b : Block) (default limit : Nat) : Nat :=
  min (if b.timeout = 0 then default else b.timeout) limit

/-- What the block is for, in the words of its author. -/
def intent (b : Block) : String := if b.description.isEmpty then b.name else b.description

end Block

/-! ## Connections and workflows -/

/-- An edge from an output of one block to an input of another. -/
structure Connection where
  id : String := ""
  source : String
  sourceOutput : String := "output"
  target : String
  targetInput : String := "input"
  deriving DecidableEq, Repr, Inhabited

namespace Connection

/-- The connection of a block's whole output to another one's input, named for its ends. -/
def between (source target : String) : Connection :=
  { id := source ++ "->" ++ target, source, target }

/-- The connection of another output and input. -/
def joining (c : Connection) (sourceOutput targetInput : String) : Connection :=
  { c with sourceOutput, targetInput }

end Connection

/-- The declared type of a workflow variable. -/
inductive VariableType where
  | string
  | number
  | boolean
  | array
  | object
  | file
  deriving DecidableEq, Repr, Inhabited

/-- A declared variable of a workflow. -/
structure WorkflowVariable where
  name : String
  type : VariableType
  defaultValue : Option Json := none
  deriving BEq, Repr

/-- A graph of blocks. -/
structure Workflow where
  id : String := ""
  blocks : List Block := []
  connections : List Connection := []
  declarations : List WorkflowVariable := []
  version : Nat := 1
  deriving BEq, Repr, Inhabited

namespace Workflow

/-- The first block with an id. -/
def block? (w : Workflow) (id : String) : Option Block := w.blocks.find? fun b => b.id = id

/-- The connections into a block. -/
def incoming (w : Workflow) (id : String) : List Connection :=
  w.connections.filter fun c => c.target = id

/-- The connections out of a block. -/
def outgoing (w : Workflow) (id : String) : List Connection :=
  w.connections.filter fun c => c.source = id

/-- Whether blocks, connections or variables differ. -/
def structureDiffers (v w : Workflow) : Bool :=
  v.blocks != w.blocks || v.connections != w.connections || v.declarations != w.declarations

end Workflow

/-- A user's workflow.  The description doubles as the goal of its runs. -/
structure Agent where
  id : String
  userId : String
  name : String
  description : String := ""
  workflow : Option Workflow := none
  deriving BEq, Repr, Inhabited

end Blockflow
