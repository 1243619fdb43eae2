import Blockflow.Proofs.Activity.Paths
import Blockflow.Proofs.Run.Events
import Blockflow.Schedule

/-!
# Runs with the work of their blocks

A run is told when a block returns, and what.  Here the work itself is added: every started block
has a desk, and goes on from answer to answer until it returns.  Which block goes on next, how long
its answer took and what the answer is are left open, and so is when the run is cancelled and when
its bookkeeping is done.  A schedule is one way to settle all this (`Engine.execute_eq_course`);
what holds here holds for each of them, and for every model, every service and every tool.

* `Activity.pending?`, `Activity.hear`, `Activity.late?` — the call an activity waits with, and how
  it goes on.
* `Workshop`, `WorkEvent` — a run with its desks and a record of what was asked and answered, and
  what may happen there.
* **`Workshop.step`**, `Workshop.after` — a workshop after an event, and after many.
* `Workshop.modelRequests`, `Workshop.toolUses` — what models were asked, and what tools were used
  for, as far as the tools note it.
* **`Workshop.run_after`** — the run in a workshop is a run: its blocks return what they came to.
-/

namespace Blockflow

/-! ## Going on -/

namespace Activity

variable {α : Type}

/-- The call that an activity waits with. -/
def pending? : Activity α → Option Call
  | .done _ => none
  | .ask c _ => some c
  | .askWithin c _ _ _ => some c

/-- The activity after its answer. -/
def hear (ms : Nat) (reply : (c : Call) → c.Answer) : Activity α → Activity α
  | .done a => .done a
  | .ask c next => next ms (reply c)
  | .askWithin c _ _ next => next ms (reply c)

/-- The activity when it no longer waits, if its patience is limited. -/
def late? : Activity α → Option (Activity α)
  | .askWithin _ _ late _ => some late
  | _ => none

/-- The value of an activity that is done. -/
def value? : Activity α → Option α
  | .done a => some a
  | _ => none

end Activity

/-- The work of a started block in a run. -/
def ScheduleFrame.workIn (f : ScheduleFrame) (r : Run) (i : Nat) : Activity BlockEnd :=
  let b := f.setup.block i
  f.engine.work f.options b (r.cell i).state.inputs
    { executionId := f.setup.executionId, blockId := b.id, userId := f.userId }

/-! ## Workshops -/

/-- A run with the desks of its blocks, the calls that were made and the answers that came, in
order and each with its block, and what came back from the desks, as it counts in the run. -/
structure Workshop where
  run : Run
  desks : Nat → Option (Activity BlockEnd) := fun _ => none
  asked : List (Nat × Call) := []
  heard : List (Nat × Reply) := []
  ended : Nat → Option BlockEnd := fun _ => none

/-- Whether an event is the return of a block. -/
def RunEvent.isReturn : RunEvent → Bool
  | .returns _ _ => true
  | _ => false

/-- What may happen in a workshop. -/
inductive WorkEvent where
  /-- A started block begins to work. -/
  | begins (block : Nat)
  /-- A block gets the answer that it waits for, after so many milliseconds. -/
  | answers (block ms : Nat) (reply : (c : Call) → c.Answer)
  /-- A block no longer waits. -/
  | tires (block : Nat)
  /-- A block that is done returns. -/
  | returns (block : Nat)
  /-- A block of a cancelled run is told to stop. -/
  | stops (block : Nat)
  /-- Anything else happens to the run. -/
  | books (event : RunEvent)

namespace Workshop

variable (f : ScheduleFrame)

/-- A workshop in which no block has begun. -/
def opened (r : Run) : Workshop := { run := r }

/-- Lets an event happen to the run. -/
def book (w : Workshop) (event : RunEvent) : Workshop := { w with run := w.run.step f.setup event }

/-- Puts what is left to do for a block on its desk; a call that it waits with is made. -/
def place (w : Workshop) (i : Nat) (p : Activity BlockEnd) : Workshop :=
  { w with
    desks := Function.update w.desks i (some p)
    asked := w.asked ++ p.pending?.toList.map fun c => (i, c) }

/-- What a running block does with its desk. -/
def atDesk (w : Workshop) (i : Nat) (act : Activity BlockEnd → Workshop) : Workshop :=
  match w.desks i with
  | some p => if i ∈ w.run.running then act p else w
  | none => w

/-- A block gets the answer that it waits for. -/
def answer (w : Workshop) (i ms : Nat) (reply : (c : Call) → c.Answer)
    (p : Activity BlockEnd) : Workshop :=
  match p.pending? with
  | some c => place { w with heard := w.heard ++ [(i, ⟨c, reply c⟩)] } i (p.hear ms reply)
  | none => w

/-- A block gives back what it came to. -/
def giveBack (w : Workshop) (i : Nat) (e : BlockEnd) : Workshop :=
  { w.book f (.returns i e) with
    ended := Function.update w.ended i (some (e.under w.run.cancelled)) }

/-- **A workshop after an event**; one that is not possible changes nothing. -/
def step (w : Workshop) : WorkEvent → Workshop
  | .begins i =>
    if i ∈ w.run.running ∧ w.desks i = none then w.place i (f.workIn w.run i) else w
  | .answers i ms reply => w.atDesk i (w.answer i ms reply)
  | .tires i => w.atDesk i fun p => (p.late?.map (w.place i)).getD w
  | .returns i => w.atDesk i fun p => (p.value?.map (w.giveBack f i)).getD w
  | .stops i => if w.run.cancelled then w.book f (.returns i .cancelled) else w
  | .books event => if event.isReturn then w else w.book f event

/-- A workshop after a list of events. -/
def after (w : Workshop) (events : List WorkEvent) : Workshop := events.foldl (step f) w

/-! ## What was asked -/

/-- What models were asked, by which blocks. -/
def modelRequests (w : Workshop) : List (Nat × Voice × ModelRequest) :=
  w.asked.filterMap fun x => match x.2 with
    | .ask voice request => some (x.1, voice, request)
    | _ => none

/-- The uses of tools that were noted: by which block, of which tool, with which arguments. -/
def toolUses (w : Workshop) : List (Nat × String × Json) :=
  w.asked.filterMap fun x => match x.2 with
    | .note use => some (x.1, use.tool, use.input)
    | _ => none

/-! ## What an event does -/

variable {f} {w w' : Workshop}

/-- **What an event does**, with what its guards promise. -/
inductive Effect (f : ScheduleFrame) (w : Workshop) : WorkEvent → Workshop → Prop
  | idle {event : WorkEvent} : Effect f w event w
  | begun {i : Nat} (hi : i ∈ w.run.running) (hdesk : w.desks i = none) :
      Effect f w (.begins i) (w.place i (f.workIn w.run i))
  | answered {i ms : Nat} {reply : (c : Call) → c.Answer} {p : Activity BlockEnd} {c : Call}
      (hi : i ∈ w.run.running) (hdesk : w.desks i = some p) (hc : p.pending? = some c) :
      Effect f w (.answers i ms reply)
        (place { w with heard := w.heard ++ [(i, ⟨c, reply c⟩)] } i (p.hear ms reply))
  | tired {i : Nat} {p late : Activity BlockEnd} (hi : i ∈ w.run.running)
      (hdesk : w.desks i = some p) (hlate : p.late? = some late) :
      Effect f w (.tires i) (w.place i late)
  | returned {i : Nat} {e : BlockEnd} (hi : i ∈ w.run.running)
      (hdesk : w.desks i = some (.done e)) : Effect f w (.returns i) (w.giveBack f i e)
  | stopped {i : Nat} (hcancelled : w.run.cancelled = true) :
      Effect f w (.stops i) (w.book f (.returns i .cancelled))
  | booked {event : RunEvent} (hevent : event.isReturn = false) :
      Effect f w (.books event) (w.book f event)

/-- At a desk something is done by a running block with work to do. -/
lemma atDesk_effect {i : Nat} {act : Activity BlockEnd → Workshop} {event : WorkEvent}
    (h : ∀ p, i ∈ w.run.running → w.desks i = some p → Effect f w event (act p)) :
    Effect f w event (w.atDesk i act) := by
  rw [atDesk]
  split
  · next p hdesk =>
      split_ifs with hi
      · exact h p hi hdesk
      · exact .idle
  · exact .idle

/-- **Every step is one of the alternatives.** -/
theorem step_effect (f : ScheduleFrame) (w : Workshop) (event : WorkEvent) :
    Effect f w event (w.step f event) := by
  cases event with
  | begins i =>
      rw [step]
      split_ifs with h
      · exact .begun h.1 h.2
      · exact .idle
  | answers i ms reply =>
      refine atDesk_effect fun p hi hdesk => ?_
      rw [answer]
      split
      · next c hc => exact .answered hi hdesk hc
      · exact .idle
  | tires i =>
      refine atDesk_effect fun p hi hdesk => ?_
      cases hlate : p.late? with
      | none => exact .idle
      | some late => exact .tired hi hdesk hlate
  | returns i =>
      refine atDesk_effect fun p hi hdesk => ?_
      cases p with
      | done e => exact .returned hi hdesk
      | ask => exact .idle
      | askWithin => exact .idle
  | stops i =>
      rw [step]
      split_ifs with h
      · exact .stopped h
      · exact .idle
  | books event =>
      rw [step]
      split_ifs with h
      · exact .idle
      · exact .booked (Bool.eq_false_iff.mpr h)

lemma after_append (front back : List WorkEvent) :
    w.after f (front ++ back) = (w.after f front).after f back := List.foldl_append

/-- What every step keeps holds after every list of events. -/
theorem after_invariant {p : Workshop → Prop} (hstep : ∀ w event, p w → p (w.step f event))
    (events : List WorkEvent) : ∀ w, p w → p (w.after f events) := by
  induction events with
  | nil => exact fun _ h => h
  | cons event events ih => exact fun w hw => ih _ (hstep w event hw)

/-! ## The run in a workshop -/

/-- An event lets at most one event happen to the run. -/
lemma run_step (w : Workshop) (event : WorkEvent) :
    (w.step f event).run = w.run ∨ ∃ e, (w.step f event).run = w.run.step f.setup e := by
  have heffect := step_effect f w event
  generalize w.step f event = w' at heffect
  cases heffect with
  | idle | begun | answered | tired => exact .inl rfl
  | @returned i e => exact .inr ⟨.returns i e, rfl⟩
  | @stopped i => exact .inr ⟨.returns i .cancelled, rfl⟩
  | @booked event => exact .inr ⟨event, rfl⟩

/-- **The run in a workshop is a run**: its blocks return what they came to. -/
theorem run_after (events : List WorkEvent) : ∀ w : Workshop,
    ∃ runEvents, (w.after f events).run = w.run.after f.setup runEvents := by
  induction events with
  | nil => exact fun w => ⟨[], rfl⟩
  | cons event events ih =>
      intro w
      obtain ⟨rest, hrest⟩ := ih (w.step f event)
      rcases run_step w event with h | ⟨e, h⟩
      · exact ⟨rest, by rw [← h]; exact hrest⟩
      · exact ⟨e :: rest, by rw [Run.after_cons, ← h]; exact hrest⟩

end Workshop

end Blockflow
