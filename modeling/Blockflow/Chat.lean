import Blockflow.Settings.Basic
import Blockflow.Timestamp
import Blockflow.Usage
import Blockflow.Workflow.Codec

/-!
# Conversations with a model

A conversation is a list of messages, each a list of parts: texts, tool requests by the model,
and the tools' answers.  A model answers a conversation with a stream of deltas.

* `Role`, `MessagePart`, `ChatMessage` — messages, with `ChatMessage.text` and
  `ChatMessage.toolUses`.
* `StopReason`, `Delta` — what a streamed answer consists of.
* `ToolDefinition`, `ToolOutcome` — tools as a model sees them, and their answers.
* `ModelRequest` — one call of a model.
-/

namespace Blockflow

open Json

/-! ## Messages -/

/-- Who speaks. -/
inductive Role where
  | system
  | user
  | assistant
  | tool
  deriving DecidableEq, Repr, Inhabited

namespace Role

/-- The word for a role. -/
def word : Role → String
  | .system => "system"
  | .user => "user"
  | .assistant => "assistant"
  | .tool => "tool"

/-- All roles. -/
def all : List Role := [.system, .user, .assistant, .tool]

/-- Roles travel as their words. -/
def codec : Codec Role := .words (all.map fun r => (r.word, r)) word

end Role

/-- A part of a message. -/
inductive MessagePart where
  | text (text : String)
  | toolUse (id name : String) (input : Json)
  | toolResult (toolUseId content : String) (isError : Bool)
  deriving BEq, Repr, Inhabited

/-- The members of a text part. -/
def MessagePart.textFields : Fields (Option String × Unit) (String × Unit) :=
  .required "text" .text .done

/-- The members of a tool request. -/
def MessagePart.toolUseFields :
    Fields (Option String × Option String × Option Json × Unit)
      (String × String × Json × Unit) :=
  .required "id" .text <| .required "name" .text <| .required "input" .json .done

/-- The members of a tool's answer. -/
def MessagePart.toolResultFields :
    Fields (Option String × Option String × Option Bool × Unit)
      (String × String × Bool × Unit) :=
  .required "tool_use_id" .text <| .required "content" .text <| .required "is_error" .bool .done

/-- Parts are told apart by their member `type`. -/
def MessagePart.codec : Codec MessagePart :=
  .tagged "type" "ContentBlock"
    [ .ofFields "text" "struct variant ContentBlock::Text" textFields
        fun (s, ()) => .text s,
      .ofFields "tool_use" "struct variant ContentBlock::ToolUse" toolUseFields
        fun (id, name, input, ()) => .toolUse id name input,
      .ofFields "tool_result" "struct variant ContentBlock::ToolResult" toolResultFields
        fun (id, content, isError, ()) => .toolResult id content isError ]
    fun
    | .text s => Codec.taggedJson "type" "text" textFields (s, ())
    | .toolUse id name input =>
      Codec.taggedJson "type" "tool_use" toolUseFields (id, name, input, ())
    | .toolResult id content isError =>
      Codec.taggedJson "type" "tool_result" toolResultFields (id, content, isError, ())

/-- Points in time travel as texts. -/
def Timestamp.codec : Codec Timestamp where
  read _ d :=
    match d with
    | .text s => (Timestamp.parse s).mapError fun flaw => .mismatch flaw.message
    | d => .error (d.unlike "an RFC 3339 formatted date and time string")
  write t := .text t.render

/-- A message. -/
structure ChatMessage where
  role : Role
  content : List MessagePart
  timestamp : Option Timestamp := none
  deriving BEq, Repr, Inhabited

namespace ChatMessage

/-- Messages as JSON. -/
def codec : Codec ChatMessage :=
  .record "struct ChatMessage"
    (.required "role" Role.codec <|
      .required "content" (.list MessagePart.codec) <|
      .cons (.omissible "timestamp" Timestamp.codec) .done)
    (fun (role, content, timestamp, ()) => ⟨role, content, timestamp⟩)
    (fun m => (m.role, m.content, m.timestamp, ()))

/-- A message of one text. -/
def ofText (role : Role) (s : String) : ChatMessage := { role, content := [.text s] }

/-- The message that hands a tool's answer to the model. -/
def ofToolResult (toolUseId content : String) (isError : Bool) : ChatMessage :=
  { role := .user, content := [.toolResult toolUseId content isError] }

/-- All texts of a message, joined. -/
def text (m : ChatMessage) : String :=
  String.join <| m.content.filterMap fun
    | .text s => some s
    | _ => none

/-- The tool requests of a message: id, name and input. -/
def toolUses (m : ChatMessage) : List (String × String × Json) :=
  m.content.filterMap fun
    | .toolUse id name input => some (id, name, input)
    | _ => none

end ChatMessage

/-! ## Streamed answers -/

/-- Why a model stopped. -/
inductive StopReason where
  | endTurn
  | toolUse
  | maxTokens
  | stopSequence
  deriving DecidableEq, Repr, Inhabited

/-- A piece of a streamed answer. -/
inductive Delta where
  | text (text : String)
  | toolStart (index : Nat) (id name : String)
  | toolInput (index : Nat) (part : String)
  | stop (reason : StopReason)
  | usage (usage : TokenUsage)
  deriving DecidableEq, Repr

/-- A streamed answer: its deltas, and the error that broke it off, if one did. -/
structure Stream where
  deltas : List Delta
  failure : Option Error := none
  deriving DecidableEq, Repr, Inhabited

/-! ## Tools and calls -/

/-- A tool as a model sees it. -/
structure ToolDefinition where
  name : String
  description : String
  inputSchema : Json
  deriving BEq, Repr, Inhabited

/-- Tool definitions as JSON. -/
def ToolDefinition.codec : Codec ToolDefinition :=
  .record "struct ToolDefinition"
    (.required "name" .text <|
      .required "description" .text <|
      .required "input_schema" .json .done)
    (fun (name, description, inputSchema, ()) => ⟨name, description, inputSchema⟩)
    (fun t => (t.name, t.description, t.inputSchema, ()))

/-- What a tool answered. -/
structure ToolOutcome where
  content : String
  isError : Bool := false
  deriving DecidableEq, Repr, Inhabited

/-- One call of a model. -/
structure ModelRequest where
  config : ModelConfig
  messages : List ChatMessage
  tools : List ToolDefinition
  format : ResponseFormat
  deriving Repr, Inhabited

end Blockflow
