import Blockflow.Workflow.Basic

/-!
# Workflows as JSON

A workflow arrives as the text an editor saved.  A block's settings are read as any value first
and decoded once its kind is known, so that what is wrong with them is reported with the block
they belong to.

* `Workflow.codec`, `Block.codec`, `Connection.codec`, `Agent.codec` — the codecs.
* **`Workflow.ofText`** — a workflow from its text.
-/

namespace Blockflow

open Json

/-! ## Settings -/

/-- Operations travel as their words. -/
def VariableOperation.codec : Codec VariableOperation :=
  .words [("set", .set), ("read", .read)] fun
    | .set => "set"
    | .read => "read"

/-- Shapes travel as their words. -/
def VariableShape.codec : Codec VariableShape :=
  .words [("text", .text), ("file", .file), ("json", .json)] fun
    | .text => "text"
    | .file => "file"
    | .json => "json"

/-- Formats travel as their words. -/
def ResponseFormat.codec : Codec ResponseFormat :=
  .words [("text", .text), ("json", .json)] fun
    | .text => "text"
    | .json => "json"

/-- Kinds of block travel as their words. -/
def BlockType.codec : Codec BlockType := .words (all.map fun t => (t.word, t)) word

/-- Settings of variable blocks. -/
def VariableConfig.codec : Codec VariableConfig :=
  .record "struct VariableConfig"
    (.defaulted "operation" VariableOperation.codec .read <|
      .defaulted "variableName" .text "input" <|
      .defaulted "inputType" VariableShape.codec .text <|
      .optional "defaultValue" .json <|
      .optional "value" .text <|
      .defaulted "required" .bool false .done)
    (fun (operation, variableName, shape, defaultValue, value, required, ()) =>
      ⟨operation, variableName, shape, defaultValue, value, required⟩)
    (fun c => (c.operation, c.variableName, c.shape, c.defaultValue, c.value, c.required, ()))

/-- Settings of model blocks. -/
def ModelBlockConfig.codec : Codec ModelBlockConfig :=
  .record "struct LlmBlockConfig"
    (.optional "model" .text <|
      .optional "systemPrompt" .text <|
      .defaulted "userPrompt" .text "" <|
      .defaulted "enabledTools" (.list .text) [] <|
      .defaulted "outputFormat" ResponseFormat.codec .text <|
      .optional "outputSchema" .json <|
      .optional "maxToolRounds" .size <|
      .optional "temperature" .single .done)
    (fun (model, systemPrompt, userPrompt, enabledTools, outputFormat, outputSchema,
        maxToolRounds, temperature, ()) =>
      ⟨model, systemPrompt, userPrompt, enabledTools, outputFormat, outputSchema, maxToolRounds,
        temperature⟩)
    (fun c => (c.model, c.systemPrompt, c.userPrompt, c.enabledTools, c.outputFormat,
      c.outputSchema, c.maxToolRounds, c.temperature, ()))

/-- Settings of tool blocks. -/
def ToolBlockConfig.codec : Codec ToolBlockConfig :=
  .record "struct ToolBlockConfig"
    (.required "toolName" .text <| .defaulted "argumentMapping" .object [] .done)
    (fun (toolName, argumentMapping, ()) => ⟨toolName, argumentMapping⟩)
    (fun c => (c.toolName, c.argumentMapping, ()))

/-- The settings of a block of a known kind, from the value given for them. -/
def BlockConfig.ofJson (type : BlockType) (v : Json) : Except String BlockConfig :=
  match type with
  | .variable => (VariableConfig.codec.ofJson v).map .variable
  | .llmInference => (ModelBlockConfig.codec.ofJson v).map .llmInference
  | .codeBlock => (ToolBlockConfig.codec.ofJson v).map .codeBlock

/-- The settings as a value. -/
def BlockConfig.toJson : BlockConfig → Json
  | .variable c => VariableConfig.codec.write c
  | .llmInference c => ModelBlockConfig.codec.write c
  | .codeBlock c => ToolBlockConfig.codec.write c

/-! ## Blocks -/

/-- Positions. -/
def Position.codec : Codec Position :=
  .record "struct Position" (.required "x" .double <| .required "y" .double .done)
    (fun (x, y, ()) => ⟨x, y⟩) (fun p => (p.x, p.y, ()))

/-- A block as it is written down: its kind a word, its settings any value. -/
structure BlockEntry where
  id : String
  normalizedId : String
  name : String
  description : String
  type : String
  config : Json
  timeout : Nat
  position : Option Position
  isOutput : Bool

/-- Written blocks. -/
def BlockEntry.codec : Codec BlockEntry :=
  .record "struct RawBlock"
    (.required "id" .text <|
      .defaulted "normalizedId" .text "" <|
      .defaulted "name" .text "" <|
      .defaulted "description" .text "" <|
      .required "type" .text <|
      .defaulted "config" .json .null <|
      .defaulted "timeout" .u64 0 <|
      .optional "position" Position.codec <|
      .defaulted "isOutput" .bool false .done)
    (fun (id, normalizedId, name, description, type, config, timeout, position, isOutput, ()) =>
      ⟨id, normalizedId, name, description, type, config, timeout, position, isOutput⟩)
    (fun b => (b.id, b.normalizedId, b.name, b.description, b.type, b.config, b.timeout,
      b.position, b.isOutput, ()))

/-- The block of a written one.  Settings that are null stand for none, and a block without a
normalized id goes by its id. -/
def BlockEntry.toBlock (e : BlockEntry) : Except String Block :=
  match BlockType.ofWord? e.type with
  | none => .error ("block " ++ e.id ++ ": unknown block type '" ++ e.type ++ "'")
  | some type =>
    match BlockConfig.ofJson type (if e.config.isNull then .object [] else e.config) with
    | .error wording =>
      .error ("block " ++ e.id ++ ": invalid " ++ e.type ++ " config: " ++ wording)
    | .ok config => .ok
      { id := e.id
        normalizedId := if e.normalizedId.isEmpty then e.id else e.normalizedId
        name := e.name
        description := e.description
        config
        timeout := e.timeout
        position := e.position
        isOutput := e.isOutput }

/-- A block written down. -/
def BlockEntry.ofBlock (b : Block) : BlockEntry :=
  ⟨b.id, b.normalizedId, b.name, b.description, b.type.word, b.config.toJson, b.timeout,
    b.position, b.isOutput⟩

/-- Blocks. -/
def Block.codec : Codec Block := .refine BlockEntry.codec BlockEntry.toBlock BlockEntry.ofBlock

/-! ## Workflows -/

/-- Connections. -/
def Connection.codec : Codec Connection :=
  .record "struct Connection"
    (.defaulted "id" .text "" <|
      .required "sourceBlockId" .text <|
      .defaulted "sourceOutput" .text "output" <|
      .required "targetBlockId" .text <|
      .defaulted "targetInput" .text "input" .done)
    (fun (id, source, sourceOutput, target, targetInput, ()) =>
      ⟨id, source, sourceOutput, target, targetInput⟩)
    (fun c => (c.id, c.source, c.sourceOutput, c.target, c.targetInput, ()))

/-- Variable types travel as their words. -/
def VariableType.codec : Codec VariableType :=
  .words
    [("string", .string), ("number", .number), ("boolean", .boolean), ("array", .array),
      ("object", .object), ("file", .file)]
    fun
    | .string => "string"
    | .number => "number"
    | .boolean => "boolean"
    | .array => "array"
    | .object => "object"
    | .file => "file"

/-- Declared variables. -/
def WorkflowVariable.codec : Codec WorkflowVariable :=
  .record "struct WorkflowVariable"
    (.required "name" .text <|
      .required "type" VariableType.codec <|
      .optional "defaultValue" .json .done)
    (fun (name, type, defaultValue, ()) => ⟨name, type, defaultValue⟩)
    (fun v => (v.name, v.type, v.defaultValue, ()))

/-- Workflows. -/
def Workflow.codec : Codec Workflow :=
  .record "struct Workflow"
    (.defaulted "id" .text "" <|
      .defaulted "blocks" (.list Block.codec) [] <|
      .defaulted "connections" (.list Connection.codec) [] <|
      .defaulted "variables" (.list WorkflowVariable.codec) [] <|
      .defaulted "version" .u64 1 .done)
    (fun (id, blocks, connections, declarations, version, ()) =>
      ⟨id, blocks, connections, declarations, version⟩)
    (fun w => (w.id, w.blocks, w.connections, w.declarations, w.version, ()))

/-- **A workflow from its text.** -/
def Workflow.ofText (source : String) : Except Error Workflow :=
  match Workflow.codec.ofText source with
  | .ok w => .ok w
  | .error wording => .error (.validation wording)

/-- Agents. -/
def Agent.codec : Codec Agent :=
  .record "struct Agent"
    (.required "id" .text <|
      .required "userId" .text <|
      .required "name" .text <|
      .defaulted "description" .text "" <|
      .defaulted "workflow" (.option Workflow.codec) none .done)
    (fun (id, userId, name, description, workflow, ()) =>
      ⟨id, userId, name, description, workflow⟩)
    (fun a => (a.id, a.userId, a.name, a.description, a.workflow, ()))

end Blockflow
