import Blockflow.Execution.Basic
import Blockflow.Plan
import Blockflow.Template

/-!
# Responses

The response for a finished run is assembled from the result alone: a result text chosen by
policy, the charts, images and files found in the blocks' outputs, and a few numbers.

* `Response.primaryText` — the text a reader wants of one block's outputs.
* `Finding`, `Response.findings` — charts, images and files inside a value, four levels deep.
* `Response.resultText` — the text of the block that stands for the run.
* **`Response.build`** — the response.
-/

namespace Blockflow.Response

/-! ## Texts -/

/-- The keys tried for a block's text, in this order. -/
def primaryKeys : List String := ["response", "result", "text", "output", "value"]

/-- **The text of a block's outputs**: the first of the primary keys with a value, or the only
value there is, or all of it as JSON. -/
def primaryText (outputs : Json.Object) : String :=
  match (primaryKeys.filterMap (Table.get? outputs)).find? fun v => !v.isNull with
  | some v => Template.valueText v
  | none =>
    match outputs with
    | [] => ""
    | [(_, v)] => Template.valueText v
    | ms => (Json.object ms).compact

/-! ## Findings -/

/-- Something to show beside the text. -/
inductive Finding where
  | artifact (artifact : Artifact)
  | file (file : FileRef)
  deriving DecidableEq, Repr

/-- The text under the first of some keys that holds one. -/
def textUnder? (ms : Json.Object) (keys : List String) : Option String :=
  keys.findSome? fun k => (Table.get? ms k).bind Json.asText?

/-- The chart or image an object is. -/
def artifact? (source : String) (ms : Json.Object) : Option Artifact := do
  let kind ← textUnder? ms ["type"]
  guard (kind = "chart" || kind = "image")
  let data ← textUnder? ms ["data"]
  return { kind, format := textUnder? ms ["format"], data, title := textUnder? ms ["title"],
           sourceBlock := source }

/-- The file an object is. -/
def file? (source : String) (ms : Json.Object) : Option FileRef := do
  let fileId ← textUnder? ms ["file_id", "fileId"]
  let filename ← textUnder? ms ["filename"]
  return { fileId, filename, mimeType := textUnder? ms ["mime_type", "mimeType"],
           size := (Table.get? ms "size").bind Json.asNat?,
           downloadUrl := textUnder? ms ["download_url", "downloadUrl", "url"],
           sourceBlock := source }

/-- What an object is by itself. -/
def finding? (source : String) (ms : Json.Object) : Option Finding :=
  ((artifact? source ms).map .artifact).or ((file? source ms).map .file)

/-- How many levels below an output are searched. -/
def searchDepth : Nat := 4

mutual

/-- **What a value holds**, `levels` levels deep, in order; inside a finding nothing is looked
for. -/
def findings (source : String) (levels : Nat) : Json → List Finding
  | .object ms =>
    match finding? source ms with
    | some f => [f]
    | none => match levels with
      | 0 => []
      | levels + 1 => memberFindings source levels ms
  | .array xs => match levels with
    | 0 => []
    | levels + 1 => itemFindings source levels xs
  | _ => []

/-- What items hold. -/
def itemFindings (source : String) (levels : Nat) : List Json → List Finding
  | [] => []
  | x :: xs => findings source levels x ++ itemFindings source levels xs

/-- What members hold. -/
def memberFindings (source : String) (levels : Nat) : List (String × Json) → List Finding
  | [] => []
  | (_, x) :: ms => findings source levels x ++ memberFindings source levels ms

end

/-- What a block's outputs hold. -/
def blockFindings (result : ExecutionResult) (b : Block) : List Finding :=
  match result.blockStates.get? b.id with
  | some s => memberFindings b.id searchDepth s.outputs
  | none => []

/-- The first file of each id. -/
def distinctFiles (seen : List String) : List FileRef → List FileRef
  | [] => []
  | f :: fs =>
    if seen.contains f.fileId then distinctFiles seen fs
    else f :: distinctFiles (f.fileId :: seen) fs

/-! ## The result text -/

/-- The state of a block that completed. -/
def completed? (result : ExecutionResult) (b : Block) : Option BlockState :=
  (result.blockStates.get? b.id).filter fun s => s.status = .completed

/-- The text of the last completed block of a list. -/
def lastText? (result : ExecutionResult) (blocks : List Block) : Option String :=
  (blocks.reverse.findSome? (completed? result)).map fun s => primaryText s.outputs

/-- **The text that stands for a run.**  The marked blocks' texts where the policy asks for them
and one of them completed; else the text of the last completed block without outgoing
connections, or of the last completed one. -/
def resultText (result : ExecutionResult) (w : Workflow) (ordered : List Block)
    (policy : ResultPolicy) : String :=
  let marked := (ordered.filter (·.isOutput)).filterMap (completed? result)
  if policy = .designatedOutput && !marked.isEmpty then
    String.intercalate "\n\n" (marked.map fun s => primaryText s.outputs)
  else
    let sinks := ordered.filter fun b => (w.outgoing b.id).isEmpty
    ((lastText? result sinks).or (lastText? result ordered)).getD ""

/-! ## The response -/

/-- The blocks in the order of the plan, or in their own order where there is no plan. -/
def orderedBlocks (w : Workflow) : List Block :=
  match Plan.build w with
  | .ok plan => plan.order.filterMap fun i => w.blocks[i]?
  | .error _ => w.blocks

/-- **The response for a finished run.** -/
def build (result : ExecutionResult) (w : Workflow) (executionId : String) (durationMs : Nat)
    (policy : ResultPolicy) : ExecutionResponse :=
  let ordered := orderedBlocks w
  let found := ordered.flatMap (blockFindings result)
  let failed := result.count .failed
  { status := result.status
    result := resultText result w ordered policy
    artifacts := found.filterMap fun
      | .artifact a => some a
      | .file _ => none
    files := distinctFiles [] <| found.filterMap fun
      | .file f => some f
      | .artifact _ => none
    blocks := result.blockStates
    metadata :=
      { executionId
        workflowId := w.id
        workflowVersion := w.version
        durationMs
        inputTokens := result.usage.input
        outputTokens := result.usage.output
        blocksTotal := w.blocks.length
        blocksExecuted := result.count .completed + failed
        blocksFailed := failed
        blocksSkipped := result.count .skipped }
    error := if result.status = .failed then result.error else none }

end Blockflow.Response
