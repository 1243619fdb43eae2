import Blockflow.Command.Arguments
import Blockflow.Command.Files
import Blockflow.Deployment
import Blockflow.Settings.Document

/-!
# Carrying out commands

A command prints its result, or one line that tells why there is none; what happens on the way
goes to the notes.

* `Workspace.settings`, `Workspace.workflow` — what commands read first.
* `Report` — what a command prints, and its exit code.
* `Command.showSettings`, `Command.validate`, `Command.importAgent`, `Command.run` — the commands.
* **`Command.execute`** — a command line, carried out.
-/

namespace Blockflow

namespace Command

namespace Workspace

/-! ## What commands read first -/

/-- Settings from a file. -/
def settingsFrom (ws : Workspace) (path : String) : Except Error Settings :=
  match ws.entry path with
  | .ok (.file source) => Settings.ofDocument ws.env source
  | _ => .error (.configNotFound path)

/-- The path of the settings: the given one, else the one in the home directory. -/
def settingsPath? (ws : Workspace) (path : String) : Option String :=
  if ws.contains path then some path else (Settings.defaultPath ws.env).filter ws.contains

/-- What is noted when there are no settings. -/
def warning : String :=
  "Warning: No config file found. Set OPENAI_API_KEY or create weft.toml"

/-- The settings, and what is noted about them. -/
def settings (ws : Workspace) (path : String) : List String × Except Error Settings :=
  match ws.settingsPath? path with
  | some path => ([], ws.settingsFrom path)
  | none => ([warning], .ok (.ofEnvironment ws.env))

/-- The workflow in a file. -/
def workflow (ws : Workspace) (path : String) : Except String Workflow := do
  let source ← (ws.readFile path).mapError PathFault.message
  (Workflow.ofText source).mapError Error.message

end Workspace

/-! ## Commands -/

/-- What a command prints and notes, and its exit code. -/
structure Report where
  code : Nat := 0
  output : String := ""
  notes : List String := []
  deriving DecidableEq, Repr, Inhabited

/-- The outcome of a command that came to its end: what it printed and noted, and what it left. -/
structure Done where
  output : String
  notes : List String := []
  workspace : Workspace
  world : World
  deriving Inhabited

/-- The engine of the settings. -/
def engine (s : Settings) : Except String Engine :=
  (s.deployedEngine Retry.steady).mapError Error.message

/-- Shows the settings. -/
def showSettings (ws : Workspace) (world : World) (s : Settings) : Except String Done := do
  return { output := (← s.document) ++ "\n", workspace := ws, world }

/-- Looks at a workflow without running it. -/
def validate (ws : Workspace) (world : World) (s : Settings) (path : String) :
    Except String Done := do
  let w ← ws.workflow path
  let engine ← engine s
  let plan ← (engine.validate w).mapError Error.message
  return { output := s!"Workflow {w.id} is valid: {plan.order.length} blocks, " ++
             s!"{w.connections.length} connections\n"
           workspace := ws
           world }

/-- Puts an agent into the store; its workflow has to be one that can be run. -/
def importAgent (ws : Workspace) (world : World) (s : Settings) (path : String)
    (userId : Option String) : Except String Done := do
  let source ← (ws.readFile path).mapError PathFault.message
  let agent ← Agent.codec.ofText source
  let agent := { agent with userId := userId.getD agent.userId }
  if let some w := agent.workflow then
    discard ((← engine s).validate w |>.mapError Error.message)
  let place := s.storePath ws.env
  let (store, saved) ← (ws.openStore place >>= fun s => s.saveAgent agent).mapError Error.message
  let version := (saved.workflow.map (·.version)).getD 0
  return { output := s!"Imported agent {saved.id} for {saved.userId} (workflow version {version})\n"
           workspace := ws.putStore place store
           world }

/-- The note on an update. -/
def note (u : ExecutionUpdate) : String :=
  "[" ++ u.blockId ++ "] " ++ u.status.word ++ (u.error.elim "" fun e => ": " ++ e)

/-- Runs a workflow and prints the response. -/
def run (ws : Workspace) (world : World) (s : Settings) (path : String) (a : RunArguments) :
    Except String Done := do
  let w ← ws.workflow path
  let input ← Json.Codec.object.ofText a.input
  let engine ← engine s
  let (world, id) := world.freshId
  let options : ExecutionOptions :=
    { executionId := some id
      workflowGoal := a.goal
      enableBlockChecker := a.usesChecker
      checkerModelId := a.checkerModelId }
  let input := Table.insert input userIdKey (.text a.userId)
  let (ended, result) ← (engine.execute w input options {} false none
    { world with pool := s.poolHealth }).mapError Error.message
  let response := engine.respond result w id (ended.world.clock - world.clock)
  return { output := (ExecutionResponse.codec.write response).pretty ++ "\n"
           notes := ended.run.listener.heard.map note
           workspace := ws
           world := ended.world }

/-- A task under the settings. -/
def perform (ws : Workspace) (world : World) (s : Settings) : Task → Except String Done
  | .showSettings => showSettings ws world s
  | .validate path => validate ws world s path
  | .run path a => run ws world s path a
  | .importAgent path userId => importAgent ws world s path userId

/-- What is printed of the program itself. -/
def versionText : String := "weft 0.3.0\n"

/-- What is printed for a request for help. -/
def helpText : String :=
  "Usage: weft [OPTIONS] <COMMAND>\n\nCommands: run, validate, import, config\n"

/-- **Carries out a command line**: what is reported, and what it leaves. -/
def execute (arguments : List String) (ws : Workspace) (world : World) :
    Report × Workspace × World :=
  match Invocation.ofArguments arguments with
  | .error .misuse => ({ code := 2 }, ws, world)
  | .error .help => ({ output := helpText }, ws, world)
  | .error .version => ({ output := versionText }, ws, world)
  | .ok invocation =>
    let (notes, settings) := ws.settings invocation.settingsPath
    match settings.mapError Error.message >>= fun s => perform ws world s invocation.task with
    | .ok d => ({ output := d.output, notes := notes ++ d.notes }, d.workspace, d.world)
    | .error wording => ({ code := 1, notes := notes ++ ["Error: " ++ wording] }, ws, world)

end Command

end Blockflow
