import Blockflow.Tools.Basic
import Blockflow.Tools.Integration

/-!
# Invoking tools

Blocks and models reach tools by one path.  It finds the tool, takes the reserved keys out of the
arguments, looks up the credential the tool needs for the user it works for, runs the tool, and
turns whatever goes wrong into one of the errors a caller expects of a tool.

* `Invocation` — who invokes a tool, and from where.
* `Invoker` — a toolbox with a source of credentials.
* `Invoker.credentialFor` — the credential for a tool, or that it is missing.
* **`Invoker.invoke`** — the path.
-/

namespace Blockflow

/-- Who invokes a tool, and from where. -/
structure Invocation where
  executionId : String
  blockId : String
  userId : Option String := none
  deriving DecidableEq, Repr, Inhabited

/-- Tools and the credentials they may get. -/
structure Invoker where
  toolbox : Toolbox := []
  credentials : Option Credentials := none

namespace Invoker

/-- Arguments without the keys that belong to the engine. -/
def visibleArguments : Json → Json
  | .object ms => .object (stripReserved ms)
  | v => v

/-- The integration a tool needs a credential for: its own, or the one of its name. -/
def integrationOf (tool : Tool) : Option String :=
  tool.integration.or (Integration.ofTool? tool.name)

/-- **The credential for a tool**, none if it needs none.  Without a user, without a source or
with one that fails, it is missing. -/
def credentialFor (i : Invoker) (tool : Tool) (userId : Option String) :
    Except Error (Option Credential) :=
  match integrationOf tool with
  | none => .ok none
  | some integration =>
    match i.credentials, userId with
    | some source, some user =>
      match source.resolve user integration with
      | .ok (some c) => .ok (some c)
      | _ => .error (.credentialMissing tool.name integration)
    | _, _ => .error (.credentialMissing tool.name integration)

/-- What a caller is told of a tool's end. -/
def settle (name : String) : Except Error ToolOutcome → Except Error String
  | .ok outcome =>
    if outcome.isError then .error (.toolExecution name outcome.content) else .ok outcome.content
  | .error (.toolTimeout tool seconds) => .error (.toolTimeout tool seconds)
  | .error (.toolExecution tool reason) => .error (.toolExecution tool reason)
  | .error .cancelled => .error .cancelled
  | .error e => .error (.toolExecution name e.message)

/-- **Invokes a tool** and returns its text. -/
def invoke (i : Invoker) (name : String) (arguments : Json) (context : Invocation) :
    Activity (Except Error String) :=
  match i.toolbox.get? name with
  | none => pure (.error (.toolNotFound name))
  | some tool =>
    match i.credentialFor tool context.userId with
    | .error e => pure (.error e)
    | .ok credential => do
      let result ← i.toolbox.execute name (visibleArguments arguments)
        { executionId := context.executionId
          blockId := context.blockId
          userId := context.userId
          credential }
      return settle name result

end Invoker

end Blockflow
