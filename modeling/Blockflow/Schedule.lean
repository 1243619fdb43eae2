import Blockflow.Response
import Blockflow.Run
import Blockflow.World

/-!
# Running workflows

The blocks of a run work side by side.  Each works until it has to wait for an answer from
outside; when all wait, the clock moves on to the first of them that can go on.  Whatever comes
to an end is written down before anything else is started.

* `Engine`, **`Engine.work`** — a deployment, and the activity of one block: the executor under
  the block's time limit, and the check behind it.
* `Parked` — a block that waits.
* `Schedule`, **`Schedule.step`** — a run with its waiting blocks in the world.
* **`Engine.execute`** — a run from its beginning to its result.
-/

namespace Blockflow

/-! ## Deployments -/

/-- A deployment: executors, perhaps a checker, and the engine's settings. -/
structure Engine where
  executors : Executors
  checker : Option Checker := none
  config : EngineConfig := {}

namespace Engine

/-- The plan of a workflow all of whose blocks can be run. -/
def validate (e : Engine) (w : Workflow) : Except Error Plan := do
  let plan ← Plan.build w
  for b in w.blocks do
    discard (e.executors.find b.type)
  return plan

/-- The kinds of block that are checked. -/
def isChecked : BlockType → Bool
  | .llmInference | .codeBlock => true
  | .variable => false

/-- The checker of a block in a run, if it is to be checked. -/
def checkerFor (e : Engine) (options : ExecutionOptions) (b : Block) : Option Checker :=
  if options.enableBlockChecker && isChecked b.type then e.checker else none

/-- The executor's part of the work on a block. -/
def executed (e : Engine) (b : Block) (inputs : Json.Object) (context : BlockContext) :
    Activity (Except Error BlockOutput) :=
  match e.executors.find b.type with
  | .error failure => pure (.error failure)
  | .ok executor => do
    let limit := b.timeoutSeconds e.config.defaultBlockTimeoutSecs e.config.maxBlockTimeoutSecs
    match ← (executor b inputs context).timeout (limit * 1000) with
    | some ending => return ending.result
    | none => return .error (.blockTimeout b.id limit)

/-- **The work on one block**: its executor under its time limit, and a check of what came
out. -/
def work (e : Engine) (options : ExecutionOptions) (b : Block) (inputs : Json.Object)
    (context : BlockContext) : Activity BlockEnd := do
  let result ← e.executed b inputs context
  match result, e.checkerFor options b with
  | .ok output, some checker => do
    let outcome ← checker.check b inputs (stripReserved output.outputs)
      ⟨options.workflowGoal, options.checkerModelId⟩
    return { result, verdict := outcome.verdict, checkUsage := outcome.usage }
  | _, _ => return { result }

end Engine

/-! ## Waiting blocks -/

/-- A block that waits for the answer to a call: since when, when the call is to be looked at
again, and until when it waits at most. -/
structure Parked where
  block : Nat
  call : Call
  since : Nat
  wake : Nat
  limit : Option (Nat × Activity BlockEnd) := none
  next : Nat → call.Answer → Activity BlockEnd

namespace Parked

/-- When something happens to the block. -/
def due (p : Parked) : Nat :=
  match p.limit with
  | some (deadline, _) => min p.wake deadline
  | none => p.wake

end Parked

/-- Works on a block until it waits or returns. -/
def Activity.proceed (block : Nat) : Activity BlockEnd → World → World × (Parked ⊕ BlockEnd)
  | .done e, w => (w, .inr e)
  | .ask call next, w =>
    match w.poll true call with
    | (w, .inr a) => (next 0 a).proceed block w
    | (w, .inl ms) => (w, .inl ⟨block, call, w.clock, w.clock + ms, none, next⟩)
  | .askWithin call ms late next, w =>
    match w.poll true call with
    | (w, .inr a) => (next 0 a).proceed block w
    | (w, .inl t) =>
      (w, .inl ⟨block, call, w.clock, w.clock + t, some (w.clock + ms, late), next⟩)

/-- Looks at a waiting block again, now that something is due. -/
def Parked.resume (p : Parked) (w : World) : World × (Parked ⊕ BlockEnd) :=
  let isLate := p.limit.filter fun l => l.1 ≤ w.clock
  if p.wake ≤ w.clock then
    match w.poll false p.call with
    | (w, .inr a) => (p.next (w.clock - p.since) a).proceed p.block w
    | (w, .inl ms) =>
      match isLate with
      | some (_, late) => late.proceed p.block w
      | none => (w, .inl { p with wake := w.clock + ms })
  else
    match isLate with
    | some (_, late) => late.proceed p.block w
    | none => (w, .inl p)

/-! ## Schedules -/

/-- A run in the world: what its blocks wait for, how many of the started blocks have begun to
work, and when it will be cancelled, if ever. -/
structure Schedule where
  world : World
  run : Run
  parked : List Parked := []
  begun : Nat := 0
  cancelAt : Option Nat := none

/-- What a schedule belongs to. -/
structure ScheduleFrame where
  engine : Engine
  options : ExecutionOptions
  setup : RunSetup
  userId : Option String

namespace Schedule

variable (f : ScheduleFrame)

/-- The activity of a started block. -/
def workOf (s : Schedule) (i : Nat) : Activity BlockEnd :=
  let b := f.setup.block i
  f.engine.work f.options b (s.run.cell i).state.inputs
    { executionId := f.setup.executionId, blockId := b.id, userId := f.userId }

/-- Writes down an event at the time of the clock. -/
def write (s : Schedule) (event : RunEvent) : Schedule :=
  { s with run := s.run.after f.setup [.ticks s.world.now, event] }

/-- A block came to wait or returned. -/
def settle (s : Schedule) (i : Nat) : World × (Parked ⊕ BlockEnd) → Schedule
  | (world, .inl p) => { s with world, parked := s.parked ++ [p] }
  | (world, .inr e) => { s with world }.write f (.returns i e)

/-- Lets a block begin; in a cancelled run it returns at once. -/
def beginBlock (s : Schedule) (i : Nat) : Schedule :=
  if s.run.cancelled then s.write f (.returns i .cancelled)
  else settle f s i ((s.workOf f i).proceed i s.world)

/-- Lets every started block begin. -/
def beginAll (s : Schedule) : Schedule :=
  let waiting := s.run.started.drop s.begun
  waiting.foldl (beginBlock f) { s with begun := s.run.started.length }

/-- Looks at a waiting block again. -/
def resumeBlock (s : Schedule) (p : Parked) : Schedule := settle f s p.block (p.resume s.world)

/-- Looks at every block to which something happens now. -/
def resumeDue (s : Schedule) : Schedule :=
  let due := s.parked.filter fun p => p.due ≤ s.world.clock
  due.foldl (resumeBlock f) { s with parked := s.parked.filter fun p => !(p.due ≤ s.world.clock) }

/-- Ends every waiting block of a cancelled run, the latest of the running ones first. -/
def cancelParked (s : Schedule) : Schedule :=
  let waiting := s.run.running.reverse.filter fun i => s.parked.any fun p => p.block = i
  waiting.foldl (fun s i => s.write f (.returns i .cancelled)) { s with parked := [] }

/-- Writes down the end of a block and starts what it lets start. -/
def join (s : Schedule) (i : Nat) : Schedule :=
  let s := s.write f (.joins i)
  { s with run := s.run.catchUp f.setup }

/-- Writes down everything that returned. -/
def joinAll (s : Schedule) : Schedule := s.run.returned.foldl (fun s x => s.join f x.1) s

/-- The next time at which something happens. -/
def nextTime (s : Schedule) : Option Nat :=
  match s.cancelAt, (s.parked.map Parked.due).min? with
  | some a, some b => some (min a b)
  | _, b => b

/-- Moves the clock to the next time at which something happens. -/
def advance (s : Schedule) (time : Nat) : Schedule :=
  let s := { s with world := { s.world with clock := max s.world.clock time } }
  match s.cancelAt with
  | some t => if t ≤ s.world.clock then { s with cancelAt := none }.write f .cancels else s
  | none => s

/-- **One step**: what was started begins; else what is cancelled ends; else the clock moves on.
Nothing is left to do once no block works or waits. -/
def step? (s : Schedule) : Option Schedule :=
  if s.begun < s.run.started.length then some ((s.beginAll f).joinAll f)
  else if s.run.cancelled && !s.parked.isEmpty then some ((s.cancelParked f).joinAll f)
  else
    match s.nextTime with
    | none => none
    | some time =>
      let s := s.advance f time
      if s.run.cancelled then some s else some ((s.resumeDue f).joinAll f)

/-- Steps until nothing is left to do or a condition holds. -/
def runUntil (stop : Schedule → Bool) : (fuel : Nat) → Schedule → Schedule
  | 0, s => s
  | fuel + 1, s =>
    if stop s then s
    else
      match s.step? f with
      | none => s
      | some s => runUntil stop fuel s

/-- More steps than any run takes: a run has at most one step for each call of a block. -/
def stepLimit : Nat := 0x10000000000

/-- The result of a run in which nothing is left to do, and the run with its last updates. -/
def conclude (s : Schedule) : Schedule × ExecutionResult :=
  let run := s.run.after f.setup [.ticks s.world.now]
  ({ s with run := run.close f.setup }, run.conclude f.setup)

end Schedule

namespace Engine

/-- A run at its beginning, or why it cannot be begun. -/
def launch (e : Engine) (w : Workflow) (input : Json.Object) (options : ExecutionOptions)
    (listener : Listener) (cancelled : Bool) (world : World) :
    Except Error (ScheduleFrame × Schedule) := do
  let plan ← e.validate w
  let (world, executionId) := match options.executionId with
    | some id => (world, id)
    | none => world.freshId
  let setup : RunSetup :=
    { workflow := w
      plan
      executionId
      trigger := stripReserved input
      authoritative := e.config.checker.authoritative
      startedAt := world.now }
  return ({ engine := e
            options
            setup
            userId := (Table.get? input userIdKey).bind Json.asText? },
    { world, run := (Run.begin setup listener cancelled).catchUp setup })

/-- **Runs a workflow** to its result, in a world at the end of which the listener has heard what
it was told. -/
def execute (e : Engine) (w : Workflow) (input : Json.Object) (options : ExecutionOptions)
    (listener : Listener) (cancelled : Bool) (cancelAt : Option Nat) (world : World) :
    Except Error (Schedule × ExecutionResult) := do
  let (f, s) ← e.launch w input options listener cancelled world
  return (Schedule.runUntil f (fun _ => false) Schedule.stepLimit { s with cancelAt }).conclude f

/-- The response for a finished run, by the engine's policy. -/
def respond (e : Engine) (result : ExecutionResult) (w : Workflow) (executionId : String)
    (durationMs : Nat) : ExecutionResponse :=
  Response.build result w executionId durationMs e.config.resultPolicy

end Engine

end Blockflow
