import Blockflow.Block.Basic
import Blockflow.Template

/-!
# Variable blocks

A variable block emits one value under its variable's name: a template filled in, or a value
found among the inputs.  The value is brought into the declared shape.

* `VariableBlock.setValue`, `VariableBlock.readValue` — where the value comes from.
* `VariableBlock.shaped` — the value in its shape.
* **`VariableBlock.executor`** — the executor, which calls nothing.
-/

namespace Blockflow.VariableBlock

/-- The value a block sets: its template filled in, or its default. -/
def setValue (c : VariableConfig) (inputs : Json.Object) : Json :=
  match c.value with
  | some template => Template.resolve template inputs
  | none => c.defaultValue.getD .null

/-- The value a block reads: what the inputs hold under its variable's path, or its default.  A
required one has to be there. -/
def readValue (c : VariableConfig) (inputs : Json.Object) : Except Error Json :=
  match (Template.lookup inputs c.variableName).filter fun v => !v.isNull with
  | some v => .ok v
  | none =>
    match c.defaultValue with
    | some v => .ok v
    | none =>
      if c.required then
        .error (.invalidInput ("required value '" ++ c.variableName ++ "' missing from input"))
      else .ok .null

/-- Whether a value refers to a file: a file's id, or an object with one. -/
def isFileRef : Json → Bool
  | .text s => !s.isEmpty
  | .object ms => Table.contains ms "file_id" || Table.contains ms "fileId"
  | _ => false

/-- A value in its declared shape.  Null has every shape; any value has a text; a text is parsed
where JSON is declared. -/
def shaped (c : VariableConfig) (v : Json) : Except Error Json :=
  match c.shape, v with
  | _, .null => .ok .null
  | .text, v => .ok (.text (Template.valueText v))
  | .json, .text s =>
    (Json.parse s).mapError fun wording =>
      .invalidInput ("'" ++ c.variableName ++ "' is not valid JSON: " ++ wording)
  | .json, v => .ok v
  | .file, v =>
    if isFileRef v then .ok v
    else .error (.invalidInput ("'" ++ c.variableName ++ "' is not a file reference"))

/-- What a variable block produces. -/
def outputs (c : VariableConfig) (inputs : Json.Object) : Except Error Json.Object := do
  let v ← match c.operation with
    | .set => pure (setValue c inputs)
    | .read => readValue c inputs
  return [(c.variableName, ← shaped c v)]

/-- **The executor of variable blocks.** -/
def executor : Executor := fun block inputs _ =>
  pure <| .returned <| match block.config with
    | .variable c => (outputs c inputs).map fun ms => { outputs := ms }
    | _ => .error (.invalidInput ("block " ++ block.id ++ " is not a variable block"))

end Blockflow.VariableBlock
