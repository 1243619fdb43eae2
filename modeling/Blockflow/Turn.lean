import Blockflow.Chat

/-!
# Turns

A streamed answer is put together into one turn of the conversation: the text, the tool calls in
the order of their indices, why the model stopped, and what it cost.

* `ToolCall`, `Turn` — a turn.
* `PartialCall`, `Turn.step` — what a delta adds.
* **`Turn.collect`** — the turn of a stream; an error in the stream is the error of the turn.
-/

namespace Blockflow

/-- A tool call a model asks for. -/
structure ToolCall where
  id : String
  name : String
  input : Json
  deriving BEq, Repr, Inhabited

/-- A received answer. -/
structure Turn where
  text : String := ""
  toolCalls : List ToolCall := []
  stopReason : Option StopReason := none
  usage : TokenUsage := {}
  deriving BEq, Repr, Inhabited

/-- A tool call of which not everything has arrived. -/
structure PartialCall where
  id : String := ""
  name : String := ""
  arguments : String := ""
  deriving DecidableEq, Repr, Inhabited

/-- What has arrived of a turn. -/
structure PartialTurn where
  text : String := ""
  calls : List PartialCall := []
  stopReason : Option StopReason := none
  usage : TokenUsage := {}
  deriving DecidableEq, Repr, Inhabited

namespace Turn

/-- The calls with one changed at an index; the list grows as far as needed. -/
def startCall (calls : List PartialCall) (index : Nat) (id name : String) : List PartialCall :=
  let calls := calls ++ List.replicate (index + 1 - calls.length) ({} : PartialCall)
  calls.modify index fun c => { c with id, name }

/-- What one delta adds. -/
def step (t : PartialTurn) : Delta → PartialTurn
  | .text s => { t with text := t.text ++ s }
  | .toolStart index id name => { t with calls := startCall t.calls index id name }
  | .toolInput index part =>
    { t with calls := t.calls.modify index fun c => { c with arguments := c.arguments ++ part } }
  | .stop reason => { t with stopReason := some reason }
  | .usage u => { t with usage := t.usage + u }

/-- The value of a call's arguments: no members for blank ones, null for what is not JSON. -/
def argumentsValue (source : String) : Json :=
  if (Text.trimChars source.toList).isEmpty then .object []
  else (Json.parse? source).getD .null

/-- A finished call at a position among the named ones, which names it if it has no id. -/
def finishCall (position : Nat) (c : PartialCall) : ToolCall :=
  { id := if c.id.isEmpty then "call_" ++ toString position else c.id
    name := c.name
    input := argumentsValue c.arguments }

/-- The turn of everything that arrived.  Calls without a name are dropped. -/
def finish (t : PartialTurn) : Turn :=
  { text := t.text
    toolCalls := (t.calls.filter fun c => !c.name.isEmpty).mapIdx finishCall
    stopReason := t.stopReason
    usage := t.usage }

/-- **The turn of a stream.** -/
def collect (s : Stream) : Except Error Turn :=
  match s.failure with
  | some e => .error e
  | none => .ok (finish (s.deltas.foldl step {}))

/-- Whether the model asks for tools. -/
def wantsTools (t : Turn) : Bool := !t.toolCalls.isEmpty

/-- The message of a turn. -/
def toMessage (t : Turn) : ChatMessage :=
  { role := .assistant
    content :=
      (if t.text.isEmpty then [] else [.text t.text]) ++
        t.toolCalls.map fun c => .toolUse c.id c.name c.input }

end Turn

end Blockflow
