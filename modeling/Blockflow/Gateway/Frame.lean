import Blockflow.Execution.Basic

/-!
# Frames of a live connection

A client asks for runs and cancels them; the gateway answers with the progress of the one run
that is active.  Every frame is an object whose member `type` tells what it is.

* `ClientFrame` — what a client sends.
* `ServerFrame` — what the gateway sends, with `ServerFrame.ofUpdate` and
  `ServerFrame.ofError` for what the engine reports.
-/

namespace Blockflow

open Json

/-- A request to run an agent's workflow. -/
structure RunFrame where
  agentId : String
  input : Json.Object := []
  enableBlockChecker : Bool := false
  checkerModelId : Option String := none
  deriving BEq, Repr, Inhabited

/-- A frame from the client. -/
inductive ClientFrame where
  | executeWorkflow (run : RunFrame)
  | cancelExecution
  deriving BEq, Repr, Inhabited

namespace ClientFrame

/-- The members of a request to run. -/
abbrev runFields :=
  Fields.required "agent_id" Codec.text <|
    .defaulted "input" .object [] <|
    .defaulted "enable_block_checker" .bool false <|
    .optional "checker_model_id" .text .done

/-- Client frames as JSON. -/
def codec : Codec ClientFrame :=
  .tagged "type" "ClientMessage"
    [ .ofFields "execute_workflow" "struct variant ClientMessage::ExecuteWorkflow" runFields
        fun (agentId, input, checker, model, ()) =>
          .executeWorkflow ⟨agentId, input, checker, model⟩,
      .bare "cancel_execution" .cancelExecution ]
    fun
    | .executeWorkflow r => Codec.taggedJson "type" "execute_workflow" runFields
        (r.agentId, r.input, r.enableBlockChecker, r.checkerModelId, ())
    | .cancelExecution => Codec.taggedJson "type" "cancel_execution" .done ()

end ClientFrame

/-- The end of a run as a frame tells it. -/
structure CompletionFrame where
  executionId : String
  status : ExecutionStatus
  finalOutput : Json.Object
  durationMs : Nat
  response : ExecutionResponse
  error : Option String := none
  deriving BEq, Repr, Inhabited

/-- A frame from the gateway. -/
inductive ServerFrame where
  | connected
  | executionStarted (executionId : String)
  | executionUpdate (executionId : String) (update : ExecutionUpdate)
  | executionComplete (completion : CompletionFrame)
  | error (message : String) (kind : Option ErrorKind)
  deriving BEq, Repr, Inhabited

namespace ServerFrame

/-- The frame of an update. -/
def ofUpdate (executionId : String) (update : ExecutionUpdate) : ServerFrame :=
  .executionUpdate executionId update

/-- The frame of an error of the program. -/
def ofError (e : Error) : ServerFrame := .error e.message (some e.kind)

/-- The frame of a complaint that has no kind. -/
def complaint (message : String) : ServerFrame := .error message none

/-- The members of a started frame. -/
abbrev startedFields := Fields.required "execution_id" Codec.text .done

/-- The members of an update frame. -/
abbrev updateFields :=
  Fields.required "execution_id" Codec.text <|
    .required "block_id" .text <|
    .required "status" BlockStatus.codec <|
    .optional "inputs" .object <|
    .optional "output" .object <|
    .optional "error" .text <|
    .optional "error_kind" ErrorKind.codec .done

/-- The members of a completion frame. -/
abbrev completeFields :=
  Fields.required "execution_id" Codec.text <|
    .required "status" ExecutionStatus.codec <|
    .required "final_output" .object <|
    .required "duration_ms" .u64 <|
    .required "api_response" ExecutionResponse.codec <|
    .optional "error" .text .done

/-- The members of an error frame. -/
abbrev errorFields :=
  Fields.required "error" Codec.text <| .optional "kind" ErrorKind.codec .done

/-- Server frames as JSON. -/
def codec : Codec ServerFrame :=
  .tagged "type" "ServerMessage"
    [ .bare "connected" .connected,
      .ofFields "execution_started" "struct variant ServerMessage::ExecutionStarted" startedFields
        fun (id, ()) => .executionStarted id,
      .ofFields "execution_update" "struct variant ServerMessage::ExecutionUpdate" updateFields
        fun (id, blockId, status, inputs, output, failure, errorKind, ()) =>
          .executionUpdate id ⟨blockId, status, inputs, output, failure, errorKind⟩,
      .ofFields "execution_complete" "struct variant ServerMessage::ExecutionComplete"
        completeFields
        fun (id, status, output, durationMs, response, failure, ()) =>
          .executionComplete ⟨id, status, output, durationMs, response, failure⟩,
      .ofFields "error" "struct variant ServerMessage::Error" errorFields
        fun (message, kind, ()) => .error message kind ]
    fun
    | .connected => Codec.taggedJson "type" "connected" .done ()
    | .executionStarted id => Codec.taggedJson "type" "execution_started" startedFields (id, ())
    | .executionUpdate id u => Codec.taggedJson "type" "execution_update" updateFields
        (id, u.blockId, u.status, u.inputs, u.output, u.error, u.errorKind, ())
    | .executionComplete c => Codec.taggedJson "type" "execution_complete" completeFields
        (c.executionId, c.status, c.finalOutput, c.durationMs, c.response, c.error, ())
    | .error message kind => Codec.taggedJson "type" "error" errorFields (message, kind, ())

end ServerFrame

end Blockflow
