import Blockflow.Chat

/-!
# Runs and their reports

A run of a workflow moves every block through a few states and ends with a result.  What clients
see of it are updates while it runs and a standardized response at its end.

* `BlockStatus`, `ExecutionStatus` — states of a block and of a run.
* `BlockState` — what is recorded of a block.
* `ExecutionUpdate`, `ExecutionOptions`, `ExecutionResult` — a run's progress, switches and end.
* `Artifact`, `FileRef`, `ExecutionMetadata`, `ExecutionResponse` — the standardized response.
* `ExecutionRecord` — an entry of the history.
-/

namespace Blockflow

open Json

/-! ## States -/

/-- State of one block. -/
inductive BlockStatus where
  | pending
  | running
  | completed
  | failed
  | skipped
  deriving DecidableEq, Repr, Inhabited

namespace BlockStatus

/-- The word for a state. -/
def word : BlockStatus → String
  | .pending => "pending"
  | .running => "running"
  | .completed => "completed"
  | .failed => "failed"
  | .skipped => "skipped"

/-- All states. -/
def all : List BlockStatus := [.pending, .running, .completed, .failed, .skipped]

/-- States travel as their words. -/
def codec : Codec BlockStatus := .words (all.map fun s => (s.word, s)) word

/-- Whether a block in this state is done. -/
def isTerminal : BlockStatus → Bool
  | .completed | .failed | .skipped => true
  | _ => false

end BlockStatus

/-- State of a run. -/
inductive ExecutionStatus where
  | pending
  | running
  | completed
  | failed
  | partialFailure
  deriving DecidableEq, Repr, Inhabited

namespace ExecutionStatus

/-- The word for a state. -/
def word : ExecutionStatus → String
  | .pending => "pending"
  | .running => "running"
  | .completed => "completed"
  | .failed => "failed"
  | .partialFailure => "partial_failure"

/-- All states. -/
def all : List ExecutionStatus := [.pending, .running, .completed, .failed, .partialFailure]

/-- States travel as their words. -/
def codec : Codec ExecutionStatus := .words (all.map fun s => (s.word, s)) word

/-- Whether a run in this state is done. -/
def isTerminal : ExecutionStatus → Bool
  | .completed | .failed | .partialFailure => true
  | _ => false

end ExecutionStatus

/-- What is recorded of one block of a run. -/
structure BlockState where
  status : BlockStatus := .pending
  inputs : Json.Object := []
  outputs : Json.Object := []
  error : Option String := none
  errorKind : Option ErrorKind := none
  /-- The reason of a negative verdict that did not fail the block. -/
  warning : Option String := none
  startedAt : Option Timestamp := none
  completedAt : Option Timestamp := none
  deriving BEq, Repr, Inhabited

/-- Block states as JSON. -/
def BlockState.codec : Codec BlockState :=
  .record "struct BlockExecutionState"
    (.required "status" BlockStatus.codec <|
      .defaulted "inputs" .object [] <|
      .defaulted "outputs" .object [] <|
      .optional "error" .text <|
      .optional "error_kind" ErrorKind.codec <|
      .optional "warning" .text <|
      .optional "started_at" Timestamp.codec <|
      .optional "completed_at" Timestamp.codec .done)
    (fun (status, inputs, outputs, error, errorKind, warning, startedAt, completedAt, ()) =>
      ⟨status, inputs, outputs, error, errorKind, warning, startedAt, completedAt⟩)
    (fun s => (s.status, s.inputs, s.outputs, s.error, s.errorKind, s.warning, s.startedAt,
      s.completedAt, ()))

/-! ## Progress and end of a run -/

/-- One step of a block's progress. -/
structure ExecutionUpdate where
  blockId : String
  status : BlockStatus
  inputs : Option Json.Object := none
  output : Option Json.Object := none
  error : Option String := none
  errorKind : Option ErrorKind := none
  deriving BEq, Repr, Inhabited

/-- Updates as JSON. -/
def ExecutionUpdate.codec : Codec ExecutionUpdate :=
  .record "struct ExecutionUpdate"
    (.required "block_id" .text <|
      .required "status" BlockStatus.codec <|
      .optional "inputs" .object <|
      .optional "output" .object <|
      .optional "error" .text <|
      .optional "error_kind" ErrorKind.codec .done)
    (fun (blockId, status, inputs, output, error, errorKind, ()) =>
      ⟨blockId, status, inputs, output, error, errorKind⟩)
    (fun u => (u.blockId, u.status, u.inputs, u.output, u.error, u.errorKind, ()))

/-- What a caller chooses for one run. -/
structure ExecutionOptions where
  executionId : Option String := none
  workflowGoal : Option String := none
  enableBlockChecker : Bool := false
  checkerModelId : Option String := none
  deriving DecidableEq, Repr, Inhabited

/-- Options as JSON. -/
def ExecutionOptions.codec : Codec ExecutionOptions :=
  .record "struct ExecutionOptions"
    (.optional "execution_id" .text <|
      .optional "workflow_goal" .text <|
      .defaulted "enable_block_checker" .bool false <|
      .optional "checker_model_id" .text .done)
    (fun (executionId, goal, checker, model, ()) => ⟨executionId, goal, checker, model⟩)
    (fun o => (o.executionId, o.workflowGoal, o.enableBlockChecker, o.checkerModelId, ()))

/-- The end of a run.  `output` holds the outputs of the completed blocks by normalized id,
`blockStates` the states of all blocks by id. -/
structure ExecutionResult where
  executionId : String
  status : ExecutionStatus
  output : Json.Object
  blockStates : Table BlockState
  error : Option String := none
  errorKind : Option ErrorKind := none
  usage : TokenUsage := {}
  startedAt : Timestamp
  completedAt : Timestamp
  deriving BEq, Repr, Inhabited

/-- Results as JSON. -/
def ExecutionResult.codec : Codec ExecutionResult :=
  .record "struct ExecutionResult"
    (.required "execution_id" .text <|
      .required "status" ExecutionStatus.codec <|
      .required "output" .object <|
      .required "block_states" (.table BlockState.codec) <|
      .optional "error" .text <|
      .optional "error_kind" ErrorKind.codec <|
      .defaulted "usage" TokenUsage.codec {} <|
      .required "started_at" Timestamp.codec <|
      .required "completed_at" Timestamp.codec .done)
    (fun (executionId, status, output, blockStates, error, errorKind, usage, startedAt,
        completedAt, ()) =>
      ⟨executionId, status, output, blockStates, error, errorKind, usage, startedAt, completedAt⟩)
    (fun r => (r.executionId, r.status, r.output, r.blockStates, r.error, r.errorKind, r.usage,
      r.startedAt, r.completedAt, ()))

/-- How many blocks ended in a state. -/
def ExecutionResult.count (r : ExecutionResult) (status : BlockStatus) : Nat :=
  r.blockStates.countP fun e => e.2.status = status

/-! ## The standardized response -/

/-- A chart or an image found in a block's output. -/
structure Artifact where
  kind : String
  format : Option String := none
  data : String
  title : Option String := none
  sourceBlock : String
  deriving DecidableEq, Repr, Inhabited

/-- Artifacts as JSON. -/
def Artifact.codec : Codec Artifact :=
  .record "struct Artifact"
    (.required "type" .text <|
      .optional "format" .text <|
      .required "data" .text <|
      .optional "title" .text <|
      .required "source_block" .text .done)
    (fun (kind, format, data, title, sourceBlock, ()) => ⟨kind, format, data, title, sourceBlock⟩)
    (fun a => (a.kind, a.format, a.data, a.title, a.sourceBlock, ()))

/-- A file found in a block's output. -/
structure FileRef where
  fileId : String
  filename : String
  mimeType : Option String := none
  size : Option Nat := none
  downloadUrl : Option String := none
  sourceBlock : String
  deriving DecidableEq, Repr, Inhabited

/-- File references as JSON. -/
def FileRef.codec : Codec FileRef :=
  .record "struct FileRef"
    (.required "file_id" .text <|
      .required "filename" .text <|
      .optional "mime_type" .text <|
      .optional "size" .u64 <|
      .optional "download_url" .text <|
      .required "source_block" .text .done)
    (fun (fileId, filename, mimeType, size, downloadUrl, sourceBlock, ()) =>
      ⟨fileId, filename, mimeType, size, downloadUrl, sourceBlock⟩)
    (fun f => (f.fileId, f.filename, f.mimeType, f.size, f.downloadUrl, f.sourceBlock, ()))

/-- Numbers about a run. -/
structure ExecutionMetadata where
  executionId : String
  agentId : Option String := none
  workflowId : String
  workflowVersion : Nat
  durationMs : Nat
  inputTokens : UInt64
  outputTokens : UInt64
  blocksTotal : Nat
  blocksExecuted : Nat
  blocksFailed : Nat
  blocksSkipped : Nat
  deriving DecidableEq, Repr, Inhabited

/-- Metadata as JSON. -/
def ExecutionMetadata.codec : Codec ExecutionMetadata :=
  .record "struct ExecutionMetadata"
    (.required "execution_id" .text <|
      .optional "agent_id" .text <|
      .required "workflow_id" .text <|
      .required "workflow_version" .u64 <|
      .required "duration_ms" .u64 <|
      .required "input_tokens" TokenUsage.counter <|
      .required "output_tokens" TokenUsage.counter <|
      .required "blocks_total" .size <|
      .required "blocks_executed" .size <|
      .required "blocks_failed" .size <|
      .required "blocks_skipped" .size .done)
    (fun (executionId, agentId, workflowId, workflowVersion, durationMs, inputTokens,
        outputTokens, total, executed, failed, skipped, ()) =>
      ⟨executionId, agentId, workflowId, workflowVersion, durationMs, inputTokens, outputTokens,
        total, executed, failed, skipped⟩)
    (fun m => (m.executionId, m.agentId, m.workflowId, m.workflowVersion, m.durationMs,
      m.inputTokens, m.outputTokens, m.blocksTotal, m.blocksExecuted, m.blocksFailed,
      m.blocksSkipped, ()))

/-- The response a client gets for a finished run. -/
structure ExecutionResponse where
  status : ExecutionStatus
  result : String
  artifacts : List Artifact := []
  files : List FileRef := []
  blocks : Table BlockState := []
  metadata : ExecutionMetadata
  error : Option String := none
  deriving BEq, Repr, Inhabited

/-- Responses as JSON. -/
def ExecutionResponse.codec : Codec ExecutionResponse :=
  .record "struct ExecutionApiResponse"
    (.required "status" ExecutionStatus.codec <|
      .required "result" .text <|
      .defaulted "artifacts" (.list Artifact.codec) [] <|
      .defaulted "files" (.list FileRef.codec) [] <|
      .defaulted "blocks" (.table BlockState.codec) [] <|
      .required "metadata" ExecutionMetadata.codec <|
      .optional "error" .text .done)
    (fun (status, result, artifacts, files, blocks, metadata, error, ()) =>
      ⟨status, result, artifacts, files, blocks, metadata, error⟩)
    (fun r => (r.status, r.result, r.artifacts, r.files, r.blocks, r.metadata, r.error, ()))

/-- An entry of the history. -/
structure ExecutionRecord where
  id : String
  agentId : String
  userId : String
  status : ExecutionStatus
  input : Json.Object := []
  startedAt : Timestamp
  completedAt : Option Timestamp := none
  response : Option ExecutionResponse := none
  deriving BEq, Repr, Inhabited

/-- Records as JSON. -/
def ExecutionRecord.codec : Codec ExecutionRecord :=
  .record "struct ExecutionRecord"
    (.required "id" .text <|
      .required "agent_id" .text <|
      .required "user_id" .text <|
      .required "status" ExecutionStatus.codec <|
      .defaulted "input" .object [] <|
      .required "started_at" Timestamp.codec <|
      .optional "completed_at" Timestamp.codec <|
      .optional "response" ExecutionResponse.codec .done)
    (fun (id, agentId, userId, status, input, startedAt, completedAt, response, ()) =>
      ⟨id, agentId, userId, status, input, startedAt, completedAt, response⟩)
    (fun r => (r.id, r.agentId, r.userId, r.status, r.input, r.startedAt, r.completedAt,
      r.response, ()))

end Blockflow
