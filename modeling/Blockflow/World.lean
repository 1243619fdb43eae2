import Blockflow.Activity
import Blockflow.Provider.Pool

/-!
# The world outside

What activities call is a world with a clock: models that answer from a script, a service that
answers from a list of replies, and records of everything that was asked.  The clock moves only
while activities wait.

* `ScriptStep`, `World` — the models' scripts, the service, the records and the clock.
* `World.poll` — a call as it stands now: answered, or to be looked at again later.
* `World.await`, `World.awaitWithin` — a call to its end, when nothing else happens meanwhile.
* **`Activity.run`** — an activity alone in the world.
-/

namespace Blockflow

/-! ## Scripts and services -/

/-- A step of a model's script: an answer, a refusal, or a pause before the next step. -/
inductive ScriptStep where
  | answer (stream : Stream)
  | failure (error : Error)
  | delay (ms : Nat)
  deriving DecidableEq, Repr, Inhabited

/-- The refusal of a model whose script is used up. -/
def exhausted : Error := .llmRequest "scripted llm exhausted"

/-- The outcome of a call of a model: the script left, the time taken, the answer.  Pauses pass
before the step behind them is taken. -/
def takeReply : List ScriptStep → List ScriptStep × Nat × Except Error Stream
  | [] => ([], 0, .error exhausted)
  | .answer s :: rest => (rest, 0, .ok s)
  | .failure e :: rest => (rest, 0, .error e)
  | .delay ms :: rest =>
    let (left, t, a) := takeReply rest
    (left, ms + t, a)

/-- The outcome of a call of a model that waits no longer than `limit`.  A pause that is too long
is used up by the waiting. -/
def takeReplyWithin (limit : Nat) :
    List ScriptStep → List ScriptStep × Nat × Option (Except Error Stream)
  | [] => ([], 0, some (.error exhausted))
  | .answer s :: rest => (rest, 0, some (.ok s))
  | .failure e :: rest => (rest, 0, some (.error e))
  | .delay ms :: rest =>
    if ms ≤ limit then
      let (left, t, a) := takeReplyWithin (limit - ms) rest
      (left, ms + t, a)
    else (rest, limit, none)

/-- A service: whether it can be reached, the replies it has left, and what it was sent. -/
structure Peer where
  reachable : Bool := false
  replies : List Http.Response := []
  sent : List Http.Request := []
  deriving DecidableEq, Repr, Inhabited

/-- The reply of a service that has none left. -/
def Peer.noReply : Http.Response := { status := 404, body := Utf8.encode "no reply left" }

/-- An exchange with a service. -/
def Peer.exchange (p : Peer) (request : Http.Request) : Peer × Http.Outcome :=
  if p.reachable then
    ({ p with replies := p.replies.tail, sent := p.sent ++ [request] },
      .answered (p.replies.headD noReply))
  else (p, .unreachable)

/-! ## The world -/

/-- The world outside: the milliseconds that passed since its epoch, the models' scripts, what was
recorded, the service, the health of pooled models, and how many identifiers were given out. -/
structure World where
  epoch : Timestamp := ⟨0, 0⟩
  clock : Nat := 0
  worker : List ScriptStep := []
  checker : List ScriptStep := []
  candidates : List (List ScriptStep) := []
  requests : List (Voice × ModelRequest) := []
  uses : List ToolUse := []
  peer : Peer := {}
  pool : PoolHealth := {}
  ids : Nat := 0
  deriving Inhabited

namespace World

/-- The time of the clock. -/
def now (w : World) : Timestamp :=
  { w.epoch with
    seconds := w.epoch.seconds + (w.clock / 1000 : Nat)
    nanos := w.epoch.nanos + w.clock % 1000 * 1000000 }

/-- A number in hexadecimal digits, padded to a width. -/
def hexText (width n : Nat) : String :=
  let ds := Nat.toDigits 16 n
  String.ofList (List.replicate (width - ds.length) '0' ++ ds)

/-- An identifier that was not given out before. -/
def freshId (w : World) : World × String :=
  ({ w with ids := w.ids + 1 }, "00000000-0000-4000-8000-" ++ hexText 12 w.ids)

/-- The script of a model. -/
def script (w : World) : Voice → List ScriptStep
  | .worker => w.worker
  | .checker => w.checker
  | .candidate i => (w.candidates[i]?).getD []

/-- The world with another script for a model. -/
def withScript (w : World) (voice : Voice) (script : List ScriptStep) : World :=
  match voice with
  | .worker => { w with worker := script }
  | .checker => { w with checker := script }
  | .candidate i => { w with candidates := w.candidates.set i script }

/-- The world after a request was recorded. -/
def record (w : World) (voice : Voice) (request : ModelRequest) : World :=
  { w with requests := w.requests ++ [(voice, request)] }

/-- The requests a model got. -/
def requestsTo (w : World) (voice : Voice) : List ModelRequest :=
  (w.requests.filter fun r => r.1 = voice).map Prod.snd

/-- The world a while later. -/
def pass (w : World) (ms : Nat) : World := { w with clock := w.clock + ms }

/-- The world after it was asked which pooled models to try, and its answer. -/
def routed (w : World) : World × List Nat :=
  let (order, pool) := w.pool.attemptOrder w.clock
  ({ w with pool }, order)

/-- The world after a report on a pooled model. -/
def noted (w : World) (i : Nat) (succeeded : Bool) : World :=
  { w with pool := w.pool.record w.clock i succeeded }

/-- **A call as it stands now**: its answer, or how long until it has to be looked at again.
`first` tells whether the call is only now made. -/
def poll (w : World) (first : Bool) : (c : Call) → World × (Nat ⊕ c.Answer)
  | .wait ms => (w, if first && ms ≠ 0 then .inl ms else .inr ())
  | .ask voice request =>
    let w := if first then w.record voice request else w
    match (w.script voice).dropWhile (· = .delay 0) with
    | [] => (w.withScript voice [], .inr (.error exhausted))
    | .answer s :: rest => (w.withScript voice rest, .inr (.ok s))
    | .failure e :: rest => (w.withScript voice rest, .inr (.error e))
    | .delay ms :: rest => (w.withScript voice rest, .inl ms)
  | .note use => ({ w with uses := w.uses ++ [use] }, .inr ())
  | .exchange request =>
    let (peer, outcome) := w.peer.exchange request
    ({ w with peer }, .inr outcome)
  | .attempts => (w.routed.1, .inr w.routed.2)
  | .report i succeeded => (w.noted i succeeded, .inr ())

/-- A call to its end: the world then, the time it took, the answer. -/
def await (w : World) : (c : Call) → World × Nat × c.Answer
  | .wait ms => (w.pass ms, ms, ())
  | .ask voice request =>
    let w := w.record voice request
    let (left, t, a) := takeReply (w.script voice)
    ((w.withScript voice left).pass t, t, a)
  | .note use => ({ w with uses := w.uses ++ [use] }, 0, ())
  | .exchange request =>
    let (peer, outcome) := w.peer.exchange request
    ({ w with peer }, 0, outcome)
  | .attempts => (w.routed.1, 0, w.routed.2)
  | .report i succeeded => (w.noted i succeeded, 0, ())

/-- A call to its end or to the end of patience with it. -/
def awaitWithin (w : World) (limit : Nat) : (c : Call) → World × Nat × Option c.Answer
  | .wait ms => if ms ≤ limit then (w.pass ms, ms, some ()) else (w.pass limit, limit, none)
  | .ask voice request =>
    let w := w.record voice request
    let (left, t, a) := takeReplyWithin limit (w.script voice)
    ((w.withScript voice left).pass t, t, a)
  | .note use => ({ w with uses := w.uses ++ [use] }, 0, some ())
  | .exchange request =>
    let (peer, outcome) := w.peer.exchange request
    ({ w with peer }, 0, some outcome)
  | .attempts => (w.routed.1, 0, some w.routed.2)
  | .report i succeeded => (w.noted i succeeded, 0, some ())

end World

/-- **An activity alone in the world.** -/
def Activity.run {α : Type} : Activity α → World → World × α
  | .done a, w => (w, a)
  | .ask c next, w =>
    let (w, t, a) := w.await c
    (next t a).run w
  | .askWithin c ms late next, w =>
    match w.awaitWithin ms c with
    | (w, t, some a) => (next t a).run w
    | (w, _, none) => late.run w

end Blockflow
