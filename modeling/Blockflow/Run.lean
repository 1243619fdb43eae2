import Blockflow.Checker
import Blockflow.Plan

/-!
# The bookkeeping of a run

A run starts the blocks without incoming connections, and every other block once all blocks
before it have completed.  What depends on a block that failed is skipped.  Here is what is
written down when something happens; when it happens is decided elsewhere, so the order in which
blocks end, a cancellation and a lost block are all just events.

Starting blocks takes a while, since each start is told to whoever listens.  So it is done one
block at a time, and blocks may return, and the run may be cancelled, between two of them.

* `Listener` — who follows a run: it may leave.
* `BlockEnd` — what became of a block that was started.
* `RunSetup`, `Chore`, `Run` — what stays, what is still to be done, and what changes during a run.
* `Run.start`, `Run.complete`, `Run.fail`, `Run.finish` — a block's beginning and ends.
* **`RunEvent`, `Run.step`** — what may happen, and what is then written down.
* **`Run.begin`, `Run.close`, `Run.conclude`** — the beginning, the end and the result of a run.
-/

namespace Blockflow

/-! ## Listeners -/

/-- Who follows a run.  It hears updates until it leaves. -/
structure Listener where
  heard : List ExecutionUpdate := []
  gone : Bool := false
  leavesAfter : Option Nat := none
  deriving BEq, Repr, Inhabited

namespace Listener

/-- Tells a listener an update; that nobody hears it is noticed once. -/
def tell (l : Listener) (update : ExecutionUpdate) : Listener :=
  if l.gone then l
  else if l.leavesAfter = some l.heard.length then { l with gone := true }
  else { l with heard := l.heard ++ [update] }

end Listener

/-! ## Ends of blocks -/

/-- What became of a block: its executor's result, and what its check came to. -/
structure BlockEnd where
  result : Except Error BlockOutput
  verdict : Option Verdict := none
  checkUsage : TokenUsage := {}
  deriving Inhabited

namespace BlockEnd

/-- The end of a cancelled block. -/
def cancelled : BlockEnd := { result := .error .cancelled }

/-- The end as it counts in a run that may have been cancelled: only what failed on its own stays
as it is. -/
def under (e : BlockEnd) (isCancelled : Bool) : BlockEnd :=
  match e.result with
  | .ok _ => if isCancelled then { e with result := .error .cancelled, verdict := none } else e
  | .error _ => e

/-- Why the checker rejects the block, if it does. -/
def rejection (e : BlockEnd) : Option String :=
  match e.verdict with
  | some v =>
    if v.passed then none
    else some (if v.reason.isEmpty then "block checker rejected the output" else v.reason)
  | none => none

end BlockEnd

/-! ## Runs -/

/-- What stays the same during a run. -/
structure RunSetup where
  workflow : Workflow
  plan : Plan
  executionId : String
  /-- The input without the keys that belong to the engine. -/
  trigger : Json.Object
  /-- Whether a checker's rejection fails the block. -/
  authoritative : Bool := false
  startedAt : Timestamp := ⟨0, 0⟩
  deriving Inhabited

/-- The bookkeeping of one block: its state, what it delivers to the blocks behind it, and how
many blocks it still waits for. -/
structure Cell where
  state : BlockState := {}
  output : Option Json.Object := none
  waiting : Nat := 0
  deriving BEq, Repr, Inhabited

/-- What is left to be done for a block before anything else is written down. -/
inductive Chore where
  /-- The block is started, for it has no incoming connections. -/
  | start (block : Nat)
  /-- The block has one less to wait for. -/
  | release (block : Nat)
  deriving DecidableEq, Repr

/-- What changes during a run.  Blocks are named by their positions in the workflow. -/
structure Run where
  cells : List Cell
  usage : TokenUsage := {}
  cancelled : Bool := false
  /-- What is to be done next, in this order. -/
  chores : List Chore := []
  /-- The blocks that were started, in the order of their starting. -/
  started : List Nat := []
  /-- The started blocks that have not returned. -/
  running : List Nat := []
  /-- The blocks that returned and whose ends have not been written down. -/
  returned : List (Nat × BlockEnd) := []
  listener : Listener := {}
  now : Timestamp := ⟨0, 0⟩
  deriving Inhabited

/-- What may happen during a run. -/
inductive RunEvent where
  /-- The work on a block comes to an end. -/
  | returns (block : Nat) (ending : BlockEnd)
  /-- The end of a block is written down. -/
  | joins (block : Nat)
  /-- The first chore is done. -/
  | proceeds
  /-- The work on a block is lost without a result. -/
  | loses (block : Nat)
  /-- The run is cancelled. -/
  | cancels
  /-- Time passes. -/
  | ticks (now : Timestamp)

namespace RunSetup

/-- The block at a position. -/
def block (s : RunSetup) (i : Nat) : Block := (s.workflow.blocks[i]?).getD default

end RunSetup

namespace Run

/-- The bookkeeping of a block. -/
def cell (r : Run) (i : Nat) : Cell := (r.cells[i]?).getD {}

/-- The status of a block. -/
def status (r : Run) (i : Nat) : BlockStatus := (r.cell i).state.status

/-- Changes the bookkeeping of a block. -/
def modifyCell (r : Run) (i : Nat) (f : Cell → Cell) : Run := { r with cells := r.cells.modify i f }

/-- Changes the recorded state of a block. -/
def modifyState (r : Run) (i : Nat) (f : BlockState → BlockState) : Run :=
  r.modifyCell i fun c => { c with state := f c.state }

/-- Tells the listener an update. -/
def emit (r : Run) (update : ExecutionUpdate) : Run :=
  { r with listener := r.listener.tell update }

/-! ## Inputs -/

/-- The value of an output: the named one, or all of them under the default name. -/
def outputValue (output : Json.Object) (name : String) : Json :=
  match Table.get? output name with
  | some v => v
  | none => if name = "output" then .object output else .null

/-- What the run's input is to a block without incoming connections: its members, and all of it
as `input` where no member has that name. -/
def entryInputs (trigger : Json.Object) : Json.Object :=
  if Table.contains trigger "input" then trigger
  else Table.insert trigger "input" (.object trigger)

/-- The outputs of the blocks directly before a block, under their normalized ids. -/
def sourceInputs (s : RunSetup) (r : Run) (i : Nat) : Json.Object :=
  (s.plan.sources i).foldl
    (fun ms u => Table.insert ms (s.block u).normalizedId (.object ((r.cell u).output.getD [])))
    []

/-- Delivers what a connection carries, if its source delivered anything. -/
def deliver (s : RunSetup) (r : Run) (ms : Json.Object) (c : Connection) : Json.Object :=
  match (s.workflow.blocks.findIdx? fun b => b.id = c.source).bind fun u => (r.cell u).output with
  | some output => Table.insert ms c.targetInput (outputValue output c.sourceOutput)
  | none => ms

/-- **The inputs of a block**: the run's input where nothing comes before it; else the outputs of
the blocks before it, and what its connections carry. -/
def blockInputs (s : RunSetup) (r : Run) (i : Nat) : Json.Object :=
  if (s.plan.sources i).isEmpty then entryInputs s.trigger
  else (s.workflow.incoming (s.block i).id).foldl (deliver s r) (sourceInputs s r i)

/-! ## Beginning and ends of blocks -/

/-- Starts a block. -/
def start (s : RunSetup) (r : Run) (i : Nat) : Run :=
  let inputs := blockInputs s r i
  let r := r.modifyState i fun b =>
    { b with status := .running, inputs, startedAt := some r.now }
  let r := r.emit { blockId := (s.block i).id, status := .running, inputs := some inputs }
  { r with started := r.started ++ [i], running := r.running ++ [i] }

/-- One block less to wait for; the last one starts the block, unless the run is cancelled. -/
def release (s : RunSetup) (r : Run) (i : Nat) : Run :=
  let r := r.modifyCell i fun c => { c with waiting := c.waiting - 1 }
  if (r.cell i).waiting = 0 && r.status i = .pending && !r.cancelled then start s r i else r

/-- Does a chore. -/
def perform (s : RunSetup) (r : Run) : Chore → Run
  | .start i => start s r i
  | .release i => release s r i

/-- A block completed: its outputs are delivered, and the blocks behind it are to have one less to
wait for. -/
def complete (s : RunSetup) (r : Run) (i : Nat) (outputs : Json.Object) : Run :=
  let r := r.modifyCell i fun c =>
    { c with
      state := { c.state with status := .completed, completedAt := some r.now, outputs }
      output := some outputs }
  let r := r.emit { blockId := (s.block i).id, status := .completed, output := some outputs }
  { r with chores := r.chores ++ (s.plan.targets i).map .release }

/-- Skips a block. -/
def skip (s : RunSetup) (r : Run) (i : Nat) : Run :=
  let r := r.modifyState i fun b => { b with status := .skipped }
  r.emit { blockId := (s.block i).id, status := .skipped }

/-- Skips a block that was not started. -/
def skipPending (s : RunSetup) (r : Run) (i : Nat) : Run :=
  if r.status i = .pending then skip s r i else r

/-- Records the failure of a block. -/
def recordFailure (s : RunSetup) (r : Run) (i : Nat) (e : Error) : Run :=
  let r := r.modifyState i fun b =>
    { b with
      status := .failed
      completedAt := some r.now
      error := some e.message
      errorKind := some e.kind }
  r.emit
    { blockId := (s.block i).id
      status := .failed
      error := some e.message
      errorKind := some e.kind }

/-- A block failed: everything that depends on it is skipped. -/
def fail (s : RunSetup) (r : Run) (i : Nat) (e : Error) : Run :=
  (s.plan.descendants i).foldl (skipPending s) (recordFailure s r i e)

/-- Writes down a block's end.  A rejection fails the block where the checker is authoritative,
which then shows its outputs but delivers nothing; else it leaves a warning. -/
def finish (s : RunSetup) (r : Run) (i : Nat) (e : BlockEnd) : Run :=
  let r := { r with usage := r.usage + e.checkUsage }
  match e.result with
  | .error failure => fail s r i failure
  | .ok output =>
    let r := { r with usage := r.usage + output.usage }
    let outputs := stripReserved output.outputs
    match e.rejection with
    | none => complete s r i outputs
    | some reason =>
      if s.authoritative then
        fail s (r.modifyState i fun b => { b with outputs }) i (.checkFailed reason)
      else complete s (r.modifyState i fun b => { b with warning := some reason }) i outputs

/-! ## Events -/

/-- A list without one of its elements, whose place the last one takes. -/
def vacate (running : List Nat) (i : Nat) : List Nat :=
  if running.contains i then
    (running.map fun j => if j = i then running.getLastD i else j).dropLast
  else running

/-- **What is written down when something happens.**  Only a block that is running can return or
be lost, and only one that returned can be written down, once no chore is left. -/
def step (s : RunSetup) (r : Run) : RunEvent → Run
  | .returns i e =>
    if r.running.contains i then
      { r with
        running := vacate r.running i
        returned := r.returned ++ [(i, e.under r.cancelled)] }
    else r
  | .joins i =>
    if r.chores.isEmpty then
      match r.returned.find? fun x => x.1 = i with
      | some (_, e) =>
        finish s { r with returned := r.returned.filter fun x => x.1 ≠ i } i e
      | none => r
    else r
  | .proceeds =>
    match r.chores with
    | [] => r
    | chore :: rest => perform s { r with chores := rest } chore
  | .loses i => { r with running := vacate r.running i }
  | .cancels => { r with cancelled := true }
  | .ticks now => { r with now }

/-- A run after a list of events. -/
def after (s : RunSetup) (r : Run) (events : List RunEvent) : Run := events.foldl (step s) r

/-- Does all chores in turn. -/
def catchUp (s : RunSetup) (r : Run) : Run := after s r (r.chores.map fun _ => .proceeds)

/-! ## Beginning, end and result -/

/-- Before anything happens. -/
def initial (s : RunSetup) (listener : Listener) (cancelled : Bool) : Run :=
  { cells := (List.range s.workflow.blocks.length).map fun i =>
      { waiting := (s.plan.sources i).length }
    cancelled
    listener
    now := s.startedAt }

/-- **The beginning**: the blocks without incoming connections are to be started, even in a run
that is already cancelled. -/
def begin (s : RunSetup) (listener : Listener) (cancelled : Bool) : Run :=
  { initial s listener cancelled with chores := s.plan.entries.map .start }

/-- Whether no chore is left and everything that was started has been written down or lost. -/
def isDrained (r : Run) : Bool := r.chores.isEmpty && r.running.isEmpty && r.returned.isEmpty

/-- What a block is when nothing more can happen to it. -/
def settle (s : RunSetup) (r : Run) (i : Nat) : Run :=
  match r.status i with
  | .running => fail s r i (.internal "block task ended without a result")
  | .pending => skip s r i
  | _ => r

/-- **The end**: blocks that were cut off fail, blocks never started are skipped. -/
def close (s : RunSetup) (r : Run) : Run := s.plan.order.foldl (settle s) r

/-- How many blocks completed. -/
def completedCount (r : Run) : Nat := r.cells.countP fun c => c.state.status = .completed

/-- The status of a run as a whole.  `cancelled` tells whether it was cancelled before everything
that was started came to its end. -/
def overallStatus (r : Run) (cancelled : Bool) : ExecutionStatus :=
  if cancelled then .failed
  else if r.completedCount = r.cells.length then .completed
  else if r.completedCount = 0 then .failed
  else .partialFailure

/-- The first failed block in the order of the plan. -/
def firstFailed? (s : RunSetup) (r : Run) : Option Nat :=
  s.plan.order.find? fun i => r.status i = .failed

/-- The error of a run as a whole, if it failed. -/
def overallError (s : RunSetup) (r : Run) (cancelled : Bool) :
    Option String × Option ErrorKind :=
  if r.overallStatus cancelled ≠ .failed then (none, none)
  else if cancelled then (some Error.cancelled.message, some Error.cancelled.kind)
  else
    match firstFailed? s r with
    | some i =>
      let state := (r.cell i).state
      (some ("block " ++ (s.block i).id ++ " failed: " ++ state.error.getD "unknown error"),
        state.errorKind)
    | none => (none, none)

/-- The delivered outputs, under normalized ids. -/
def outputTable (s : RunSetup) (r : Run) : Json.Object :=
  s.plan.order.foldl
    (fun ms i => match (r.cell i).output with
      | some output => Table.insert ms (s.block i).normalizedId (.object output)
      | none => ms)
    []

/-- The states of all blocks, by id. -/
def stateTable (s : RunSetup) (r : Run) : Table BlockState :=
  .ofList ((s.workflow.blocks.zip r.cells).map fun x => (x.1.id, x.2.state))

/-- **The result of a closed run.** -/
def result (s : RunSetup) (r : Run) (cancelled : Bool) : ExecutionResult :=
  let (error, errorKind) := overallError s r cancelled
  { executionId := s.executionId
    status := r.overallStatus cancelled
    output := outputTable s r
    blockStates := stateTable s r
    error
    errorKind
    usage := r.usage
    startedAt := s.startedAt
    completedAt := r.now }

/-- **The result of a run in which nothing is left to do.**  Whether it was cancelled is looked up
before it is closed. -/
def conclude (s : RunSetup) (r : Run) : ExecutionResult := result s (close s r) r.cancelled

end Run

end Blockflow
