import Blockflow.Json.Codec

/-!
# Errors

Everything that can go wrong is one `Error`, named for its cause.  A client is shown two things:
the wording, and a coarse kind that it can act on.

* `Error` — the causes.
* `Error.message` — the wording of each.
* `ErrorKind`, `Error.kind` — the kind of each; `ErrorKind.isValidation` tells the kinds that
  reject a run before it starts.
-/

namespace Blockflow

/-- The coarse kind of an error. -/
inductive ErrorKind where
  | validation
  | unknownBlockType
  | invalidInput
  | toolNotFound
  | credentialMissing
  | toolExecutionError
  | toolLoopExceeded
  | structuredOutputInvalid
  | timeout
  | cancelled
  | llmError
  | limiter
  | storage
  | config
  | internal
  deriving DecidableEq, Repr, Inhabited

namespace ErrorKind

/-- The word for a kind. -/
def word : ErrorKind → String
  | .validation => "validation"
  | .unknownBlockType => "unknown_block_type"
  | .invalidInput => "invalid_input"
  | .toolNotFound => "tool_not_found"
  | .credentialMissing => "credential_missing"
  | .toolExecutionError => "tool_execution_error"
  | .toolLoopExceeded => "tool_loop_exceeded"
  | .structuredOutputInvalid => "structured_output_invalid"
  | .timeout => "timeout"
  | .cancelled => "cancelled"
  | .llmError => "llm_error"
  | .limiter => "limiter"
  | .storage => "storage"
  | .config => "config"
  | .internal => "internal"

/-- All kinds. -/
def all : List ErrorKind :=
  [.validation, .unknownBlockType, .invalidInput, .toolNotFound, .credentialMissing,
    .toolExecutionError, .toolLoopExceeded, .structuredOutputInvalid, .timeout, .cancelled,
    .llmError, .limiter, .storage, .config, .internal]

/-- Kinds travel as their words. -/
def codec : Json.Codec ErrorKind := .words (all.map fun k => (k.word, k)) word

/-- Whether an error of this kind rejects a run before any block state exists. -/
def isValidation : ErrorKind → Bool
  | .validation | .unknownBlockType => true
  | _ => false

end ErrorKind

/-- What can go wrong. -/
inductive Error where
  | validation (reason : String)
  | cycle (block : String)
  | unknownBlockType (type : String)
  | agentNotFound (agent : String)
  | noWorkflow
  | invalidInput (reason : String)
  | checkFailed (reason : String)
  | blockTimeout (block : String) (seconds : Nat)
  | cancelled
  | llmRequest (reason : String)
  | llmStream (reason : String)
  | unsupportedProvider (provider : String)
  | llmParse (reason : String)
  | structuredOutputInvalid (issues : String)
  | toolLoopExceeded (rounds : Nat)
  | toolNotFound (tool : String)
  | credentialMissing (tool integration : String)
  | toolExecution (tool reason : String)
  | toolTimeout (tool : String) (seconds : Nat)
  | toolValidation (reason : String)
  | limiter (reason : String)
  | database (reason : String)
  | config (reason : String)
  | configNotFound (path : String)
  | gateway (reason : String)
  | internal (reason : String)
  | io (reason : String)
  | json (reason : String)
  deriving DecidableEq, Repr, Inhabited

namespace Error

/-- The wording of an error. -/
def message : Error → String
  | .validation reason => "Invalid workflow: " ++ reason
  | .cycle block => "Workflow contains a cycle through block " ++ block
  | .unknownBlockType type => "No executor registered for block type: " ++ type
  | .agentNotFound agent => "Agent not found: " ++ agent
  | .noWorkflow => "Agent has no workflow defined"
  | .invalidInput reason => "Invalid input: " ++ reason
  | .checkFailed reason => "Block check failed: " ++ reason
  | .blockTimeout block seconds =>
    "Block " ++ block ++ " timed out after " ++ Json.intNumeral seconds ++ "s"
  | .cancelled => "Execution cancelled"
  | .llmRequest reason => "LLM request failed: " ++ reason
  | .llmStream reason => "LLM streaming error: " ++ reason
  | .unsupportedProvider provider => "LLM provider not supported: " ++ provider
  | .llmParse reason => "LLM response parse error: " ++ reason
  | .structuredOutputInvalid issues => "Structured output invalid: " ++ issues
  | .toolLoopExceeded rounds => "Tool loop exceeded " ++ Json.intNumeral rounds ++ " rounds"
  | .toolNotFound tool => "Tool not found: " ++ tool
  | .credentialMissing tool integration =>
    "Missing credential for tool " ++ tool ++ " (integration: " ++ integration ++ ")"
  | .toolExecution tool reason => "Tool execution failed: " ++ tool ++ ": " ++ reason
  | .toolTimeout tool seconds =>
    "Tool timeout after " ++ Json.intNumeral seconds ++ "s: " ++ tool
  | .toolValidation reason => "Tool input validation failed: " ++ reason
  | .limiter reason => "Execution limiter error: " ++ reason
  | .database reason => "Database error: " ++ reason
  | .config reason => "Config error: " ++ reason
  | .configNotFound path => "Config file not found: " ++ path
  | .gateway reason => "Gateway error: " ++ reason
  | .internal reason => "Internal error: " ++ reason
  | .io reason => "I/O error: " ++ reason
  | .json reason => "JSON error: " ++ reason

/-- The kind of an error. -/
def kind : Error → ErrorKind
  | .validation _ | .cycle _ | .agentNotFound _ | .noWorkflow | .checkFailed _ => .validation
  | .unknownBlockType _ => .unknownBlockType
  | .invalidInput _ | .toolValidation _ => .invalidInput
  | .blockTimeout _ _ | .toolTimeout _ _ => .timeout
  | .cancelled => .cancelled
  | .llmRequest _ | .llmStream _ | .unsupportedProvider _ | .llmParse _ => .llmError
  | .structuredOutputInvalid _ => .structuredOutputInvalid
  | .toolLoopExceeded _ => .toolLoopExceeded
  | .toolNotFound _ => .toolNotFound
  | .credentialMissing _ _ => .credentialMissing
  | .toolExecution _ _ => .toolExecutionError
  | .limiter _ => .limiter
  | .database _ => .storage
  | .config _ | .configNotFound _ => .config
  | .gateway _ | .internal _ | .io _ | .json _ => .internal

end Error

end Blockflow
