import Blockflow.Gateway.Service

/-!
# Live sessions

A client that stays connected sends frames and is told how its run gets on.  Three things go on at
once, in any order: the gateway reads what the client sends, it works on the run that the client
asked for, and it delivers the frames that wait to be sent.  A session is what they share, and
each of their steps is an event.

One run is worked on at a time.  The run is told of a cancellation, and of the end of the
session, but it always comes to its own end and is written down.

* `RunTask`, `Session` — the run of a session, and the session.
* `SessionEvent` — a step of one of the three.
* `Session.receive`, `Session.workOn` — reading, and working on the run.
* **`Session.step`**, `Session.after` — a session after an event, and after many.
-/

namespace Blockflow

/-! ## The run of a session -/

/-- How far a run has come. -/
inductive RunPhase where
  /-- It was asked for. -/
  | accepted (request : RunRequest)
  /-- The engine works on it; so many of its updates have been passed on. -/
  | running (run : PreparedRun) (since : Nat) (frame : ScheduleFrame) (schedule : Schedule)
      (told : Nat)
  /-- The engine has returned a result; so many of the updates have been passed on. -/
  | concluded (run : PreparedRun) (ms : Nat) (result : ExecutionResult)
      (heard : List ExecutionUpdate) (told : Nat)
  /-- Its last frame waits to be sent. -/
  | reported
  /-- Nothing is left to do. -/
  | finished

/-- The run of a session, and whether it was told to stop. -/
structure RunTask where
  phase : RunPhase
  cancelled : Bool := false

namespace RunTask

/-- Whether something is left to do. -/
def isRunning (t : RunTask) : Bool :=
  match t.phase with
  | .finished => false
  | _ => true

/-- Tells a run to stop. -/
def cancel (t : RunTask) : RunTask :=
  { phase := match t.phase with
      | .running run since frame schedule told =>
        .running run since frame (schedule.write frame .cancels) told
      | phase => phase
    cancelled := true }

end RunTask

/-! ## Sessions -/

/-- A session: whose it is, what the gateway keeps, the world, the run if one was asked for,
the frames that wait and those that were delivered, and whether the client still sends. -/
structure Session where
  identity : Identity
  state : GatewayState := {}
  world : World := {}
  task : Option RunTask := none
  waiting : List ServerFrame := []
  delivered : List ServerFrame := []
  isOpen : Bool := true

/-- A step in the life of a session. -/
inductive SessionEvent where
  /-- The client sends a text. -/
  | receives (text : String)
  /-- The client sends a frame that is not a text. -/
  | receivesOther
  /-- The client leaves. -/
  | closes
  /-- The run is prepared, while some services may be out of order. -/
  | prepares (outages : Outages)
  /-- The engine takes a step of the run. -/
  | runs
  /-- An update of the run is passed on. -/
  | forwards
  /-- The end of the run is reported, while some services may be out of order. -/
  | reports (outages : Outages)
  /-- The work on the run ends. -/
  | finishes
  /-- The first waiting frame reaches the client. -/
  | delivers
  /-- Somebody else changes what the gateway keeps. -/
  | shares (state : GatewayState)

namespace Session

/-- A session at its beginning. -/
def opened (identity : Identity) (state : GatewayState) (world : World) : Session :=
  { identity, state, world, waiting := [.connected] }

/-- Lets a frame wait to be sent. -/
def send (c : Session) (frame : ServerFrame) : Session :=
  { c with waiting := c.waiting ++ [frame] }

/-- Whether a run is being worked on. -/
def isBusy (c : Session) : Bool := c.task.any RunTask.isRunning

/-! ## Reading -/

/-- The complaint about a run that was asked for too early. -/
def busy : ServerFrame := .complaint "An execution is already running on this connection"

/-- The complaint about a text that is no frame. -/
def malformed (wording : String) : ServerFrame := .complaint ("Malformed message: " ++ wording)

/-- The run that a frame asks for, on behalf of the caller. -/
def requestOf (c : Session) (r : RunFrame) : RunRequest :=
  { agentId := r.agentId
    userId := c.identity.userId
    input := r.input
    enableBlockChecker := r.enableBlockChecker
    checkerModelId := r.checkerModelId }

/-- Tells the run to stop, if there is one. -/
def cancelRun (c : Session) : Session := { c with task := c.task.map RunTask.cancel }

/-- What a frame of the client does. -/
def obey (c : Session) : ClientFrame → Session
  | .executeWorkflow r =>
    if c.isBusy then c.send busy else { c with task := some { phase := .accepted (c.requestOf r) } }
  | .cancelExecution => if c.isBusy then c.cancelRun else c

/-- What a text of the client does. -/
def receive (c : Session) (text : String) : Session :=
  match ClientFrame.codec.ofText text with
  | .ok frame => c.obey frame
  | .error wording => c.send (malformed wording)

/-! ## Working on the run -/

variable (g : Gateway)

/-- Prepares a run.  One that may not start is rejected with an error; one that the engine refuses
fails without an update. -/
def prepare (c : Session) (o : Outages) (t : RunTask) (r : RunRequest) : Session :=
  let (world, id) := c.world.freshId
  match g.prepare c.state o world.now id r with
  | (state, .error e) =>
    { c with state, world, task := some { t with phase := .reported } }.send (.ofError e)
  | (state, .ok run) =>
    let phase := match g.launch run t.cancelled world with
      | .ok (frame, schedule) => .running run world.clock frame schedule 0
      | .error e => .concluded run 0 (Gateway.refused run e world.now) [] 0
    { c with state, world, task := some { t with phase } }.send (.executionStarted id)

/-- Reports the end of a run: to the history, and to the client. -/
def report (c : Session) (o : Outages) (t : RunTask) (run : PreparedRun) (ms : Nat)
    (result : ExecutionResult) : Session :=
  let (state, done) := g.report c.state o c.world.now run result ms
  { c with state, task := some { t with phase := .reported } }.send (.executionComplete done)

/-- The phase after a step of the engine, and the world it leaves if the run has ended. -/
def advance (run : PreparedRun) (since : Nat) (frame : ScheduleFrame) (schedule : Schedule)
    (told : Nat) : RunPhase × Option World :=
  match schedule.step? frame with
  | some schedule => (.running run since frame schedule told, none)
  | none =>
    let (last, result) := schedule.conclude frame
    (.concluded run (last.world.clock - since) result last.run.listener.heard told,
      some last.world)

/-- The next of the updates, if one was not passed on. -/
def nextUpdate (run : PreparedRun) (heard : List ExecutionUpdate) (told : Nat) :
    Option ServerFrame :=
  heard[told]?.map (.ofUpdate run.executionId)

/-- Works on the run, as far as the event is its next step. -/
def workOn (c : Session) (t : RunTask) : SessionEvent → Session
  | .prepares o =>
    match t.phase with
    | .accepted r => c.prepare g o t r
    | _ => c
  | .runs =>
    match t.phase with
    | .running run since frame schedule told =>
      let (phase, world) := advance run since frame schedule told
      { c with task := some { t with phase }, world := world.getD c.world }
    | _ => c
  | .forwards =>
    match t.phase with
    | .running run since frame schedule told =>
      match nextUpdate run schedule.run.listener.heard told with
      | some update =>
        let phase := .running run since frame schedule (told + 1)
        { c with task := some { t with phase } }.send update
      | none => c
    | .concluded run ms result heard told =>
      match nextUpdate run heard told with
      | some update =>
        let phase := .concluded run ms result heard (told + 1)
        { c with task := some { t with phase } }.send update
      | none => c
    | _ => c
  | .reports o =>
    match t.phase with
    | .concluded run ms result heard told =>
      if heard.length ≤ told then c.report g o t run ms result else c
    | _ => c
  | .finishes =>
    match t.phase with
    | .reported => { c with task := some { t with phase := .finished } }
    | _ => c
  | _ => c

/-! ## Events -/

/-- **A session after an event.**  Nothing is read once the client has left; an event that is
not possible changes nothing. -/
def step (c : Session) : SessionEvent → Session
  | .receives text => if c.isOpen then c.receive text else c
  | .receivesOther => c
  | .closes => if c.isOpen then { c.cancelRun with isOpen := false } else c
  | .delivers =>
    match c.waiting with
    | [] => c
    | frame :: rest => { c with waiting := rest, delivered := c.delivered ++ [frame] }
  | .shares state => { c with state }
  | e =>
    match c.task with
    | some t => c.workOn g t e
    | none => c

/-- A session after a list of events. -/
def after (c : Session) (events : List SessionEvent) : Session :=
  events.foldl (step g) c

/-- All frames for the client, delivered or waiting. -/
def frames (c : Session) : List ServerFrame := c.delivered ++ c.waiting

end Session

end Blockflow
