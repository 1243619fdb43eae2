import Blockflow.Chat
import Blockflow.Json.Codec
import Blockflow.Provider.EventStream
import Blockflow.Turn

/-!
# The language of chat completions

Providers of chat completions share one language.  A conversation goes out as a flat list of
messages in which every tool's answer is a message of its own; an answer comes back as a stream
of chunks, each the data of an event.

* `WireMessage`, **`WireMessage.ofConversation`** — outgoing messages.
* `completionBody` — the body of a request.
* `Chunk`, `Chunk.deltas`, **`Chunk.ofEvent`** — what a chunk says; one that cannot be read says
  nothing.
* **`Stream.ofPieces`** — the answer in the pieces of a body.
-/

namespace Blockflow

/-! ## Outgoing messages -/

/-- A tool call in an outgoing message. -/
structure WireCall where
  id : String
  name : String
  arguments : String
  deriving DecidableEq, Repr, Inhabited

/-- An outgoing message. -/
inductive WireMessage where
  | plain (role content : String)
  | calls (content : Option String) (calls : List WireCall)
  | toolAnswer (callId content : String)
  deriving DecidableEq, Repr, Inhabited

namespace WireMessage

/-- The tools' answers among the parts of a message: call and content. -/
def toolAnswers (parts : List MessagePart) : List (String × String) :=
  parts.filterMap fun
    | .toolResult id content _ => some (id, content)
    | _ => none

/-- The messages that one message of a conversation becomes. -/
def ofMessage (m : ChatMessage) : List WireMessage :=
  match m.role with
  | .system => [.plain "system" m.text]
  | .user | .tool =>
    match toolAnswers m.content with
    | [] => [.plain "user" m.text]
    | answers => answers.map fun a => .toolAnswer a.1 a.2
  | .assistant =>
    match m.toolUses with
    | [] => [.plain "assistant" m.text]
    | uses =>
      [.calls (if m.text.isEmpty then none else some m.text)
        (uses.map fun u => ⟨u.1, u.2.1, u.2.2.compact⟩)]

/-- **A conversation as it goes out.** -/
def ofConversation (messages : List ChatMessage) : List WireMessage := messages.flatMap ofMessage

/-- A tool call as JSON, with its place among the calls of its message. -/
def callJson (index : Nat) (c : WireCall) : Json :=
  .object
    [("function", .object [("arguments", .text c.arguments), ("name", .text c.name)]),
      ("id", .text c.id), ("index", .nat index), ("type", .text "function")]

/-- An outgoing message as JSON. -/
def json : WireMessage → Json
  | .plain role content => .object [("content", .text content), ("role", .text role)]
  | .calls content cs =>
    .object <| (content.toList.map fun s => ("content", .text s)) ++
      [("role", .text "assistant"), ("tool_calls", .array (cs.mapIdx callJson))]
  | .toolAnswer callId content =>
    .object [("content", .text content), ("role", .text "tool"), ("tool_call_id", .text callId)]

end WireMessage

/-- A tool as it is offered to a model. -/
def ToolDefinition.wireJson (t : ToolDefinition) : Json :=
  .object
    [("function", .object
      [("description", .text t.description), ("name", .text t.name),
        ("parameters", t.inputSchema)]),
      ("type", .text "function")]

/-- Whether a model refuses to be told a temperature. -/
def refusesTemperature (modelId : String) : Bool :=
  ["o1", "o3", "o4"].any fun family => family.toList.isPrefixOf modelId.toList

/-- **The body of a request.**  A temperature that is not positive is left to the provider. -/
def completionBody (q : ModelRequest) : Json :=
  let temperature : Json.Object :=
    if q.config.temperature.isPositive && !refusesTemperature q.config.modelId then
      [("temperature", Json.Codec.shortSingle.write q.config.temperature)]
    else []
  let tools : Json.Object :=
    if q.tools.isEmpty then [] else [("tools", .array (q.tools.map ToolDefinition.wireJson))]
  let format : Json.Object := match q.format with
    | .json => [("response_format", .object [("type", .text "json_object")])]
    | .text => []
  .object <| Table.ofList <|
    [("model", .text q.config.modelId),
      ("messages", .array ((WireMessage.ofConversation q.messages).map WireMessage.json)),
      ("max_tokens", .nat q.config.maxTokens), ("stream", .bool true),
      ("stream_options", .object [("include_usage", .bool true)])] ++
      temperature ++ tools ++ format

/-! ## Incoming chunks -/

open Json

/-- A piece of a tool call in a chunk. -/
structure ChunkCall where
  index : Nat := 0
  id : Option String := none
  /-- The name and the arguments, where the piece brings any. -/
  function : Option (Option String × Option String) := none
  deriving DecidableEq, Repr, Inhabited

/-- Name and arguments as they come in. -/
def ChunkCall.functionCodec : Codec (Option String × Option String) :=
  .record "struct OaiFunction" (.optional "name" .text <| .optional "arguments" .text .done)
    (fun (name, arguments, ()) => (name, arguments)) (fun f => (f.1, f.2, ()))

/-- Pieces of tool calls as they come in. -/
def ChunkCall.codec : Codec ChunkCall :=
  .record "struct OaiToolCall"
    (.defaulted "index" .size 0 <|
      .optional "id" .text <|
      .optional "type" .text <|
      .optional "function" ChunkCall.functionCodec .done)
    (fun (index, id, _, function, ()) => ⟨index, id, function⟩)
    (fun c => (c.index, c.id, none, c.function, ()))

/-- What a chunk adds to an answer. -/
structure ChunkDelta where
  content : Option String := none
  toolCalls : List ChunkCall := []
  deriving DecidableEq, Repr, Inhabited

/-- Additions as they come in. -/
def ChunkDelta.codec : Codec ChunkDelta :=
  .record "struct StreamDeltaContent"
    (.defaulted "content" (.option .text) none <|
      .defaulted "tool_calls" (.option (.list ChunkCall.codec)) none .done)
    (fun (content, calls, ()) => ⟨content, calls.getD []⟩)
    (fun d => (d.content, some d.toolCalls, ()))

/-- One of the answers a provider may give side by side. -/
structure ChunkChoice where
  delta : Option ChunkDelta := none
  finishReason : Option String := none
  deriving DecidableEq, Repr, Inhabited

/-- Answers as they come in. -/
def ChunkChoice.codec : Codec ChunkChoice :=
  .record "struct StreamChoice"
    (.defaulted "delta" (.option ChunkDelta.codec) none <|
      .defaulted "finish_reason" (.option .text) none .done)
    (fun (delta, reason, ()) => ⟨delta, reason⟩) (fun c => (c.delta, c.finishReason, ()))

/-- A chunk of an answer. -/
structure Chunk where
  choices : List ChunkChoice := []
  usage : Option TokenUsage := none
  deriving DecidableEq, Repr, Inhabited

namespace Chunk

/-- Usage as providers report it. -/
def usageCodec : Codec TokenUsage :=
  .record "struct StreamUsage"
    (.defaulted "prompt_tokens" TokenUsage.counter 0 <|
      .defaulted "completion_tokens" TokenUsage.counter 0 .done)
    (fun (input, output, ()) => ⟨input, output⟩) (fun u => (u.input, u.output, ()))

/-- Chunks as they come in. -/
def codec : Codec Chunk :=
  .record "struct StreamChunk"
    (.defaulted "choices" (.list ChunkChoice.codec) [] <|
      .defaulted "usage" (.option usageCodec) none .done)
    (fun (choices, usage, ()) => ⟨choices, usage⟩) (fun c => (c.choices, c.usage, ()))

/-- What a provider's word for the end of an answer means. -/
def stopReason (word : String) : StopReason :=
  match word with
  | "tool_calls" | "function_call" => .toolUse
  | "length" => .maxTokens
  | "content_filter" => .stopSequence
  | _ => .endTurn

/-- The delta of a text, unless it is empty. -/
def unlessEmpty (make : String → Delta) (s : Option String) : List Delta :=
  (s.filter fun s => !s.isEmpty).toList.map make

/-- What a piece of a tool call says; it may bring the name and arguments at once. -/
def callDeltas (c : ChunkCall) : List Delta :=
  match c.function with
  | none => []
  | some (name, arguments) =>
    (name.toList.map fun n => .toolStart c.index (c.id.getD "") n) ++
      unlessEmpty (.toolInput c.index) arguments

/-- What one of the answers says. -/
def choiceDeltas (c : ChunkChoice) : List Delta :=
  let added := match c.delta with
    | some d => unlessEmpty .text d.content ++ d.toolCalls.flatMap callDeltas
    | none => []
  added ++ c.finishReason.toList.map fun word => .stop (stopReason word)

/-- **What a chunk says**: what was used, and the first of its answers. -/
def deltas (c : Chunk) : List Delta :=
  (c.usage.toList.map .usage) ++ (c.choices.head?.map choiceDeltas).getD []

/-- The deltas of an event. -/
def ofEvent (e : ServerEvent) : List Delta :=
  if Text.trim e.data = "[DONE]" then []
  else
    match codec.ofText e.data with
    | .ok c => c.deltas
    | .error _ => []

end Chunk

/-- **The answer in the pieces of a body.** -/
def Stream.ofPieces (pieces : List EventStream.Piece) : Stream :=
  let (events, failure) := EventStream.read pieces
  { deltas := events.flatMap Chunk.ofEvent, failure }

end Blockflow
