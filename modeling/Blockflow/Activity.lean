import Blockflow.Http.Basic
import Blockflow.Tools.Credential
import Blockflow.Chat

/-!
# Activities

Running a block means waiting: for a model, for a tool, for another service.  An activity is a
computation written as the calls it makes to the outside, each with what follows from the answer;
it says nothing about when answers come or what other activities do meanwhile.

Every answer comes with the time it took, and a call can be given a limit.  That is all a timeout
needs: it cuts the limits of the calls inside it down to what is left of its own.

* `Call` — the calls, with the type of each answer.
* `Activity` — the computations, a monad.
* **`Activity.timeout`** — an activity under a time limit.
-/

namespace Blockflow

/-! ## Calls -/

/-- Which model a call is for: the one that does a block's work, the one that checks it, or one of
several that stand in for each other. -/
inductive Voice where
  | worker
  | checker
  | candidate (index : Nat)
  deriving DecidableEq, Repr, Inhabited

/-- Whom a tool works for. -/
structure ToolContext where
  executionId : String := ""
  blockId : String := ""
  userId : Option String := none
  credential : Option Credential := none
  deriving BEq, Repr, Inhabited

/-- A use of a tool, as a tool that keeps a record of its uses sees it. -/
structure ToolUse where
  tool : String
  input : Json
  context : ToolContext
  deriving BEq, Repr, Inhabited

/-- A call to the outside: wait a number of milliseconds, ask a model, note the use of a tool,
exchange messages with a service, and, where models are pooled, learn which of them to try and
report how an attempt went. -/
inductive Call where
  | wait (ms : Nat)
  | ask (voice : Voice) (request : ModelRequest)
  | note (use : ToolUse)
  | exchange (request : Http.Request)
  | attempts
  | report (index : Nat) (succeeded : Bool)

/-- What a call is answered with. -/
def Call.Answer : Call → Type
  | .wait _ => Unit
  | .ask _ _ => Except Error Stream
  | .note _ => Unit
  | .exchange _ => Http.Outcome
  | .attempts => List Nat
  | .report _ _ => Unit

/-! ## Activities -/

/-- A computation that calls the outside.  `ask` waits for its answer; `askWithin` goes on with
`late` when no answer came within `ms` milliseconds.  `next` gets the time the answer took. -/
inductive Activity (α : Type) : Type where
  | done (value : α)
  | ask (call : Call) (next : Nat → call.Answer → Activity α)
  | askWithin (call : Call) (ms : Nat) (late : Activity α) (next : Nat → call.Answer → Activity α)

namespace Activity

variable {α β : Type}

instance [Inhabited α] : Inhabited (Activity α) := ⟨.done default⟩

/-- One activity after another. -/
def bind : Activity α → (α → Activity β) → Activity β
  | .done a, f => f a
  | .ask c next, f => .ask c fun t a => (next t a).bind f
  | .askWithin c ms late next, f => .askWithin c ms (late.bind f) fun t a => (next t a).bind f

instance : Monad Activity where
  pure := .done
  bind := bind

/-- A call by itself. -/
def call (c : Call) : Activity c.Answer := .ask c fun _ a => .done a

/-- Waits. -/
def wait (ms : Nat) : Activity Unit := call (.wait ms)

/-- Asks a model. -/
def askModel (voice : Voice) (request : ModelRequest) : Activity (Except Error Stream) :=
  call (.ask voice request)

/-- Notes the use of a tool. -/
def note (use : ToolUse) : Activity Unit := call (.note use)

/-- Exchanges messages with a service. -/
def exchange (request : Http.Request) : Activity Http.Outcome := call (.exchange request)

/-- Learns which pooled models to try, in which order. -/
def attempts : Activity (List Nat) := call .attempts

/-- Reports how an attempt with a pooled model went. -/
def report (index : Nat) (succeeded : Bool) : Activity Unit := call (.report index succeeded)

/-- **An activity under a time limit**, with no value when it did not end in time.  A call inside
that ends or gives up exactly at the limit still counts. -/
def timeout (ms : Nat) : Activity α → Activity (Option α)
  | .done a => .done (some a)
  | .ask c next => .askWithin c ms (.done none) fun t a => (next t a).timeout (ms - t)
  | .askWithin c inner late next =>
    if inner ≤ ms then
      .askWithin c inner (late.timeout (ms - inner)) fun t a => (next t a).timeout (ms - t)
    else .askWithin c ms (.done none) fun t a => (next t a).timeout (ms - t)

/-! ## The monad laws -/

@[simp] theorem done_bind (a : α) (f : α → Activity β) : bind (.done a) f = f a := rfl

@[simp] theorem bind_done (p : Activity α) : bind p .done = p := by
  induction p with
  | done a => rfl
  | ask c next ih => simp only [bind, ih]
  | askWithin c ms late next ihLate ih => simp only [bind, ihLate, ih]

theorem bind_assoc {γ : Type} (p : Activity α) (f : α → Activity β) (g : β → Activity γ) :
    bind (bind p f) g = bind p fun a => bind (f a) g := by
  induction p with
  | done a => rfl
  | ask c next ih => simp only [bind, ih]
  | askWithin c ms late next ihLate ih => simp only [bind, ihLate, ih]

instance : LawfulMonad Activity :=
  LawfulMonad.mk' Activity (fun p => bind_done p) (fun _ _ => rfl) bind_assoc

end Activity

end Blockflow
