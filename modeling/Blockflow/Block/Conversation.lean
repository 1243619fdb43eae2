import Blockflow.Block.Basic
import Blockflow.Structured
import Blockflow.Template
import Blockflow.Tools.Invoker
import Blockflow.Turn

/-!
# Model blocks

A model block renders its prompts and talks to a model until the model answers without asking for
tools.  Tools the block enables are run for the model, a bounded number of rounds; a name it does
not enable is refused in the conversation.  An answer that should be structured and is not gets
one chance of correction in the same conversation.

* `ModelBlock.systemPrompt`, `ModelBlock.userPrompt` — the prompts.
* `Conversation` — its state.
* `ModelBlock.answerCalls` — the tool calls of one turn.
* **`ModelBlock.converse`** — turns until the model's answer.
* **`ModelBlock.executor`** — the executor.
-/

namespace Blockflow

/-- Settings all model blocks share. -/
structure ModelBlocks where
  client : ModelClient
  invoker : Invoker
  model : ModelConfig
  maxToolRounds : Nat := 5

/-- The state of a block's conversation. -/
structure Conversation where
  messages : List ChatMessage
  usage : TokenUsage := {}
  toolsUsed : List String := []
  deriving BEq, Repr, Inhabited

/-- What stays the same during a block's conversation. -/
structure ConversationFrame where
  model : ModelConfig
  tools : List ToolDefinition
  format : ResponseFormat
  maxRounds : Nat
  invocation : Invocation
  cancelled : Bool
  deriving Repr, Inhabited

namespace ModelBlock

/-! ## Prompts -/

/-- The model a block asks: its own model and temperature where it names them. -/
def modelFor (base : ModelConfig) (c : ModelBlockConfig) : ModelConfig :=
  let model := match c.model with
    | some id => if id.isEmpty then base else base.withModel id
    | none => base
  match c.temperature with
  | some t => { model with temperature := t }
  | none => model

/-- What a model that has to answer in JSON is told. -/
def jsonInstruction (schema : Option Json) : String :=
  "Respond with ONLY a valid JSON object, no markdown or commentary." ++
    match schema with
    | some s => "\nThe object must match this JSON schema:\n" ++ s.pretty
    | none => ""

/-- The system prompt, if there is anything to say. -/
def systemPrompt (c : ModelBlockConfig) (inputs : Json.Object) : Option String :=
  let own := ((c.systemPrompt.map fun t => Template.render t inputs)).getD ""
  let prompt :=
    if c.outputFormat = .json then
      (if own.isEmpty then own else own ++ "\n\n") ++ jsonInstruction c.outputSchema
    else own
  if prompt.isEmpty then none else some prompt

/-- The user prompt: the rendered one, or the block's input where there is none. -/
def userPrompt (c : ModelBlockConfig) (inputs : Json.Object) : String :=
  if !(Text.trimChars c.userPrompt.toList).isEmpty then Template.render c.userPrompt inputs
  else
    match Table.get? inputs "input" with
    | some v => Template.valueText v
    | none => (Json.object (stripReserved inputs)).compact

/-- What a model is told about an answer that does not do. -/
def correctionPrompt (issues : List String) : String :=
  "Your previous reply did not satisfy the required output format:\n- " ++
    String.intercalate "\n- " issues ++
    "\n\nReply again with ONLY the corrected JSON object."

/-- The messages a conversation starts with. -/
def opening (c : ModelBlockConfig) (inputs : Json.Object) : List ChatMessage :=
  ((systemPrompt c inputs).toList.map (ChatMessage.ofText .system)) ++
    [ChatMessage.ofText .user (userPrompt c inputs)]

/-! ## Turns -/

/-- The answer to a call of a tool that the block does not enable. -/
def refusal (tool : String) : String := "Tool '" ++ tool ++ "' is not enabled for this block"

/-- One tool call answered: the answer's text, and whether it is an error.  Only a cancellation
ends the conversation. -/
def answerCall (invoker : Invoker) (frame : ConversationFrame) (call : ToolCall) :
    Activity (Except Error (String × Bool)) :=
  if frame.tools.any fun t => t.name = call.name then do
    match ← invoker.invoke call.name call.input frame.invocation with
    | .ok content => return .ok (content, false)
    | .error .cancelled => return .error .cancelled
    | .error e => return .ok (e.message, true)
  else pure (.ok (refusal call.name, true))

/-- The conversation with a tool's answer. -/
def withAnswer (conv : Conversation) (call : ToolCall) (content : String) (isError : Bool) :
    Conversation :=
  { conv with
    messages := conv.messages ++ [ChatMessage.ofToolResult call.id content isError]
    toolsUsed :=
      if conv.toolsUsed.contains call.name then conv.toolsUsed
      else conv.toolsUsed ++ [call.name] }

/-- The tool calls of one turn, answered in order. -/
def answerCalls (invoker : Invoker) (frame : ConversationFrame) :
    List ToolCall → Conversation → Activity (Except Error Conversation)
  | [], conv => pure (.ok conv)
  | call :: rest, conv => do
    match ← answerCall invoker frame call with
    | .error e => return .error e
    | .ok (content, isError) =>
      answerCalls invoker frame rest (withAnswer conv call content isError)

/-- **Turns until the model answers without asking for tools**, with `left` rounds of tools left:
the answer's text, the conversation, and the rounds left then. -/
def converse (client : ModelClient) (invoker : Invoker) (frame : ConversationFrame) :
    (left : Nat) → Conversation → Activity (Except Error (String × Conversation × Nat))
  | left, conv =>
    if frame.cancelled then pure (.error .cancelled)
    else do
      let stream ← client ⟨frame.model, conv.messages, frame.tools, frame.format⟩
      match stream.bind Turn.collect with
      | .error e => return .error e
      | .ok turn =>
        let conv := { conv with usage := conv.usage + turn.usage }
        if !turn.wantsTools then return .ok (turn.text, conv, left)
        else
          match left with
          | 0 => return .error (.toolLoopExceeded frame.maxRounds)
          | left + 1 =>
            let conv := { conv with messages := conv.messages ++ [turn.toMessage] }
            match ← answerCalls invoker frame turn.toolCalls conv with
            | .error e => return .error e
            | .ok conv => converse client invoker frame left conv

/-! ## The block -/

/-- What a block makes of the final answer. -/
def outputs (data : Option Json) (answer : String) (conv : Conversation) : BlockOutput :=
  let data : Json.Object := (data.map fun v => ("data", v)).toList
  let used : Json.Object :=
    if conv.toolsUsed.isEmpty then [] else [("toolsUsed", .array (conv.toolsUsed.map .text))]
  { outputs := data ++ ("response", .text answer) :: used, usage := conv.usage }

/-- The messages that ask for a correction. -/
def correction (conv : Conversation) (answer : String) (issues : List String) : Conversation :=
  { conv with
    messages := conv.messages ++
      [ChatMessage.ofText .assistant answer, ChatMessage.ofText .user (correctionPrompt issues)] }

/-- The conversation of a block from its opening to its outputs. -/
def talk (shared : ModelBlocks) (c : ModelBlockConfig) (frame : ConversationFrame)
    (inputs : Json.Object) : Activity (Except Error BlockOutput) := do
  let turns := converse shared.client shared.invoker frame
  match ← turns frame.maxRounds { messages := opening c inputs } with
  | .error e => return .error e
  | .ok (answer, conv, left) =>
    match c.outputFormat with
    | .text => return .ok (outputs none answer conv)
    | .json =>
      match Structured.parse answer c.outputSchema with
      | .ok v => return .ok (outputs (some v) answer conv)
      | .error issues =>
        match ← turns left (correction conv answer issues) with
        | .error e => return .error e
        | .ok (answer, conv, _) =>
          match Structured.parse answer c.outputSchema with
          | .ok v => return .ok (outputs (some v) answer conv)
          | .error issues =>
            return .error (.structuredOutputInvalid (String.intercalate "; " issues))

/-- **The executor of model blocks.** -/
def executor (shared : ModelBlocks) : Executor := fun block inputs context =>
  match block.config with
  | .llmInference c => do
    let frame : ConversationFrame :=
      { model := modelFor shared.model c
        tools := shared.invoker.toolbox.definitionsFor c.enabledTools
        format := c.outputFormat
        maxRounds := c.maxToolRounds.getD shared.maxToolRounds
        invocation :=
          { executionId := context.executionId, blockId := block.id, userId := context.userId }
        cancelled := context.cancelled }
    return .returned (← talk shared c frame inputs)
  | _ => pure (.returned (.error (.invalidInput ("block " ++ block.id ++ " is not an LLM block"))))

end ModelBlock

end Blockflow
