import Blockflow.Activity

/-!
# Tools

A tool has a definition that models see, a time limit, perhaps an integration whose credential it
needs, and a behaviour.  The tools of a deployment are kept by name.

* `Tool` — a tool.
* `Toolbox` — tools by name, with `Toolbox.register`, `Toolbox.unregister`, `Toolbox.get?`,
  `Toolbox.names` and the definitions for models.
* **`Toolbox.execute`** — a tool run within its time limit.
-/

namespace Blockflow

/-- A tool. -/
structure Tool where
  definition : ToolDefinition
  timeoutSecs : Nat := 30
  integration : Option String := none
  run : Json → ToolContext → Activity (Except Error ToolOutcome)

/-- The name of a tool. -/
def Tool.name (t : Tool) : String := t.definition.name

/-- Tools by name. -/
abbrev Toolbox := Table Tool

namespace Toolbox

/-- Adds a tool, in place of an earlier one of its name. -/
def register (box : Toolbox) (tool : Tool) : Toolbox := Table.insert box tool.name tool

/-- Removes a tool, and tells whether there was one. -/
def unregister (box : Toolbox) (name : String) : Toolbox × Bool :=
  (Table.erase box name, Table.contains box name)

/-- The tool of a name. -/
def get? (box : Toolbox) (name : String) : Option Tool := Table.get? box name

/-- The names, in order. -/
def names (box : Toolbox) : List String := Table.keys box

/-- The definitions of all tools, by name. -/
def definitions (box : Toolbox) : List ToolDefinition := box.map fun e => e.2.definition

/-- The definitions of named tools, in the order of the names; unknown names are skipped. -/
def definitionsFor (box : Toolbox) (names : List String) : List ToolDefinition :=
  names.filterMap fun n => (box.get? n).map (·.definition)

/-- **Runs a tool within its time limit.** -/
def execute (box : Toolbox) (name : String) (input : Json) (context : ToolContext) :
    Activity (Except Error ToolOutcome) :=
  match box.get? name with
  | none => pure (.error (.toolNotFound name))
  | some tool => do
    match ← (tool.run input context).timeout (tool.timeoutSecs * 1000) with
    | some result => return result
    | none => return .error (.toolTimeout name tool.timeoutSecs)

end Toolbox

end Blockflow
