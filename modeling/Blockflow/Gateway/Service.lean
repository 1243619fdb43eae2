import Blockflow.Gateway.Access
import Blockflow.Gateway.Frame
import Blockflow.Gateway.Limiter
import Blockflow.Schedule
import Blockflow.Store.Basic

/-!
# Runs on behalf of callers

A request to run an agent's workflow is checked before anything is written down: the caller's
daily limit, the agent, its workflow and the workflow's shape.  A run that passes gets an
identifier and is counted; then the engine carries it out under the caller's identity, and the
history learns how it ended.

The limiter and the history only assist: when they are out of order, runs go on without them.

* `Gateway`, `GatewayState`, `Outages` — a gateway, what it keeps, and which of its services are
  out of order.
* **`Gateway.prepare`** — everything that can reject a run before it starts.
* `Gateway.launch`, `Gateway.report`, **`Gateway.carryOut`** — a prepared run to its end.
-/

namespace Blockflow

/-! ## Gateways -/

/-- Where agents are looked up: among given ones, or in the store. -/
inductive AgentSource where
  | given (agents : Table Agent)
  | stored
  deriving Inhabited

/-- A gateway: the engine, the keys that open it, where agents are, and whether runs are written
down. -/
structure Gateway where
  engine : Engine
  apiKeys : List ApiKeyConfig := []
  agents : AgentSource := .stored
  keepsHistory : Bool := true

/-- What a gateway keeps from run to run. -/
structure GatewayState where
  store : Store := {}
  limiter : Limiter := {}
  deriving DecidableEq, Repr, Inhabited

/-- The failures of services that are out of order. -/
structure Outages where
  limit : Option Error := none
  lookup : Option Error := none
  start : Option Error := none
  count : Option Error := none
  finish : Option Error := none
  deriving DecidableEq, Repr, Inhabited

/-- A request to run an agent's workflow. -/
structure RunRequest where
  agentId : String
  userId : String
  input : Json.Object := []
  enableBlockChecker : Bool := false
  checkerModelId : Option String := none
  deriving BEq, Repr, Inhabited

/-- A run that may start. -/
structure PreparedRun where
  executionId : String
  agentId : String
  userId : String
  workflow : Workflow
  input : Json.Object
  options : ExecutionOptions
  deriving BEq, Repr, Inhabited

namespace Gateway

/-! ## Before a run -/

/-- Whether a user has no runs left.  A limiter that is out of order stops nobody. -/
def isExhausted (s : GatewayState) (o : Outages) (userId : String) (day : Int) : Bool :=
  o.limit.isNone && s.limiter.remaining userId day = 0

/-- The agent of a user. -/
def agent (g : Gateway) (s : GatewayState) (o : Outages) (id userId : String) :
    Except Error Agent :=
  match o.lookup, g.agents with
  | some e, _ => .error e
  | none, .given agents =>
    match (Table.get? agents id).filter fun a => a.userId = userId with
    | some a => .ok a
    | none => .error (.agentNotFound id)
  | none, .stored => s.store.getAgent id userId

/-- The agent and workflow of a request that nothing speaks against. -/
def vet (g : Gateway) (s : GatewayState) (o : Outages) (now : Timestamp) (r : RunRequest) :
    Except Error (Agent × Workflow) :=
  if isExhausted s o r.userId now.day then .error (.limiter "daily execution limit reached")
  else do
    let agent ← g.agent s o r.agentId r.userId
    match agent.workflow with
    | none => .error .noWorkflow
    | some w =>
      discard (g.engine.validate w)
      return (agent, w)

/-- The store once it is written down that a run starts, if that works. -/
def recordStart (g : Gateway) (s : GatewayState) (o : Outages) (now : Timestamp) (id : String)
    (r : RunRequest) : Store :=
  if g.keepsHistory && o.start.isNone then
    (s.store.createExecution id r.agentId r.userId r.input now).1
  else s.store

/-- The limiter once a run is counted, if that works. -/
def count (s : GatewayState) (o : Outages) (now : Timestamp) (userId : String) : Limiter :=
  if o.count.isNone then s.limiter.increment userId now.day else s.limiter

/-- The goal that an agent's description states. -/
def goal (a : Agent) : Option String :=
  if (Text.trimChars a.description.toList).isEmpty then none else some a.description

/-- **Prepares a run** under an identifier that was not given out before.  A request that is
rejected changes nothing. -/
def prepare (g : Gateway) (s : GatewayState) (o : Outages) (now : Timestamp) (id : String)
    (r : RunRequest) : GatewayState × Except Error PreparedRun :=
  match g.vet s o now r with
  | .error e => (s, .error e)
  | .ok (agent, workflow) =>
    ({ store := g.recordStart s o now id r, limiter := count s o now r.userId },
      .ok
        { executionId := id
          agentId := r.agentId
          userId := r.userId
          workflow
          input := r.input
          options :=
            { executionId := some id
              workflowGoal := goal agent
              enableBlockChecker := r.enableBlockChecker
              checkerModelId := r.checkerModelId } })

/-! ## The run -/

/-- The input of a run, with the user it runs as. -/
def inputFor (run : PreparedRun) : Json.Object :=
  Table.insert run.input userIdKey (.text run.userId)

/-- A prepared run at its beginning. -/
def launch (g : Gateway) (run : PreparedRun) (cancelled : Bool) (world : World) :
    Except Error (ScheduleFrame × Schedule) :=
  g.engine.launch run.workflow (inputFor run) run.options {} cancelled world

/-- The result of a run that the engine refuses. -/
def refused (run : PreparedRun) (e : Error) (now : Timestamp) : ExecutionResult :=
  { executionId := run.executionId
    status := .failed
    output := []
    blockStates := []
    error := some e.message
    errorKind := some e.kind
    usage := {}
    startedAt := now
    completedAt := now }

/-- The response for the result of a run. -/
def response (g : Gateway) (run : PreparedRun) (result : ExecutionResult) (durationMs : Nat) :
    ExecutionResponse :=
  let r := g.engine.respond result run.workflow run.executionId durationMs
  { r with metadata := { r.metadata with agentId := some run.agentId } }

/-- The state once the history knows how a run ended, if that works. -/
def recordFinish (g : Gateway) (s : GatewayState) (o : Outages) (now : Timestamp) (id : String)
    (r : ExecutionResponse) : GatewayState :=
  if g.keepsHistory && o.finish.isNone then
    match s.store.completeExecution id r now with
    | .ok store => { s with store }
    | .error _ => s
  else s

/-- What a caller is told of the end of a run, and what is written down of it. -/
def report (g : Gateway) (s : GatewayState) (o : Outages) (now : Timestamp) (run : PreparedRun)
    (result : ExecutionResult) (durationMs : Nat) : GatewayState × CompletionFrame :=
  let r := g.response run result durationMs
  (g.recordFinish s o now run.executionId r,
    { executionId := run.executionId
      status := result.status
      finalOutput := result.output
      durationMs
      response := r
      error := r.error })

/-- **Carries out a prepared run** to its end, while nothing else happens. -/
def carryOut (g : Gateway) (s : GatewayState) (o : Outages) (world : World) (run : PreparedRun) :
    GatewayState × World × CompletionFrame :=
  match g.launch run false world with
  | .error e =>
    let (s, done) := g.report s o world.now run (refused run e world.now) 0
    (s, world, done)
  | .ok (frame, schedule) =>
    let ended := Schedule.runUntil frame (fun _ => false) Schedule.stepLimit schedule
    let (last, result) := ended.conclude frame
    let (s, done) := g.report s o last.world.now run result (last.world.clock - world.clock)
    (s, last.world, done)

/-- Prepares a run and carries it out. -/
def serve (g : Gateway) (s : GatewayState) (o : Outages) (world : World) (r : RunRequest) :
    GatewayState × World × Except Error CompletionFrame :=
  let (world, id) := world.freshId
  match g.prepare s o world.now id r with
  | (s, .error e) => (s, world, .error e)
  | (s, .ok run) =>
    let (s, world, done) := g.carryOut s o world run
    (s, world, .ok done)

end Gateway

end Blockflow
