import Blockflow.Proofs.Cost
import Blockflow.Proofs.Execution
import Blockflow.Proofs.Run.Moves

/-!
# What a run bills

The usage of a run is a sum over the turns of models that it received, but not over all of them.
The turns of a conversation are handed over with the outputs of its block, so they are lost when
the block fails: when the rounds of tools are used up, the answer does not do, the model refuses,
the time is over, or the run is cancelled.  The turn of a check counts whenever the block returns.

* `Workshop.received`, `Workshop.billed`, `Workshop.forgotten` — the cost of all answers, of those
  that count, and of the others.
* `Workshop.Charted` — what is on a desk is where the work on the block has come with the answers
  that the block heard.
* `Workshop.Balanced` — what counts is in the ledger of the run.
* **`Workshop.usage_conclude`**, **`Engine.usage_of_execute`** — the usage of a run is the cost of
  the answers that count.
-/

namespace Blockflow

namespace Workshop

variable {f : ScheduleFrame} {w w' : Workshop} {event : WorkEvent} {i j : Nat}

/-! ## Answers that count -/

/-- The answers to a block. -/
def answersTo (heard : List (Nat × Reply)) (i : Nat) : List Reply :=
  (heard.filter fun x => x.1 = i).map Prod.snd

/-- Whether an answer to a block counts: the block returned, and it succeeded or the answer was to
its check. -/
def countsAs (ended : Nat → Option BlockEnd) (x : Nat × Reply) : Bool :=
  match ended x.1 with
  | some e => x.2.call.isCheck || e.result.isOk
  | none => false

/-- What all answers have cost. -/
def received (w : Workshop) : TokenUsage := costOf (w.heard.map Prod.snd)

/-- What the answers have cost that count. -/
def billed (w : Workshop) : TokenUsage :=
  costOf ((w.heard.filter (countsAs w.ended)).map Prod.snd)

/-- What the answers have cost that do not count. -/
def forgotten (w : Workshop) : TokenUsage :=
  costOf ((w.heard.filter fun x => !countsAs w.ended x).map Prod.snd)

/-- The cost of some answers, as a sum over all. -/
lemma costOf_filter (p : Nat × Reply → Bool) (l : List (Nat × Reply)) :
    costOf ((l.filter p).map Prod.snd) = (l.map fun x => if p x then x.2.cost else 0).sum := by
  induction l with
  | nil => rfl
  | cons x l ih =>
      cases hx : p x with
      | true => simp [hx, costOf, ← ih]
      | false => simp [hx, ← ih]

lemma billed_add_forgotten (w : Workshop) : w.billed + w.forgotten = w.received := by
  rw [billed, forgotten, received, costOf_filter, costOf_filter, ← List.sum_map_add, costOf,
    List.map_map]
  refine congrArg List.sum (List.map_congr_left fun x _ => ?_)
  cases countsAs w.ended x with
  | true => exact add_zero _
  | false => exact zero_add _

/-- When a block returns, the answers to it come to count. -/
lemma costOf_returned {ended : Nat → Option BlockEnd} (hi : ended i = none) (e : BlockEnd)
    (l : List (Nat × Reply)) :
    costOf ((l.filter (countsAs (Function.update ended i (some e)))).map Prod.snd) =
      costOf ((l.filter (countsAs ended)).map Prod.snd) +
        costOf ((answersTo l i).filter fun reply => reply.call.isCheck || e.result.isOk) := by
  rw [answersTo, List.filter_map, List.filter_filter, costOf_filter, costOf_filter, costOf_filter,
    ← List.sum_map_add]
  refine congrArg List.sum (List.map_congr_left fun x _ => ?_)
  by_cases hx : x.1 = i
  · simp [countsAs, hx, hi]
  · have hsame : countsAs (Function.update ended i (some e)) x = countsAs ended x := by
      rw [countsAs, countsAs, Function.update_of_ne hx]
    simp [hsame, hx]

/-! ## Desks -/

lemma answersTo_append_self (l : List (Nat × Reply)) (i : Nat) (reply : Reply) :
    answersTo (l ++ [(i, reply)]) i = answersTo l i ++ [reply] := by
  simp [answersTo]

lemma answersTo_append_of_ne (h : j ≠ i) (l : List (Nat × Reply)) (reply : Reply) :
    answersTo (l ++ [(i, reply)]) j = answersTo l j := by
  simp [answersTo, Ne.symm h]

/-- Whether an activity is where the work on a block has come with some answers: with any further
ones with which it ends, so does the work. -/
def Follows (f : ScheduleFrame) (i : Nat) (heard : List Reply) (p : Activity BlockEnd) : Prop :=
  ∃ r, ∀ replies e, p.Yields replies e → (f.workIn r i).Yields (heard ++ replies) e

lemma Follows.hear {heard : List Reply} {p : Activity BlockEnd} (h : Follows f i heard p)
    {c : Call} (hc : p.pending? = some c) (ms : Nat) (reply : (c : Call) → c.Answer) :
    Follows f i (heard ++ [⟨c, reply c⟩]) (p.hear ms reply) := by
  obtain ⟨r, hr⟩ := h
  refine ⟨r, fun replies e he => ?_⟩
  rw [List.append_assoc]
  refine hr _ e ?_
  cases p with
  | done => cases hc
  | ask c' next =>
      cases hc
      exact .answered ms (reply c) he
  | askWithin c' limit late next =>
      cases hc
      exact .answeredWithin ms (reply c) he

lemma Follows.late {heard : List Reply} {p late : Activity BlockEnd} (h : Follows f i heard p)
    (hlate : p.late? = some late) : Follows f i heard late := by
  obtain ⟨r, hr⟩ := h
  refine ⟨r, fun replies e he => hr _ e ?_⟩
  cases p with
  | done => cases hlate
  | ask => cases hlate
  | askWithin =>
      cases hlate
      exact .tired he

/-- **What is on a desk is where the work on the block has come** with the answers to it; a block
that has not begun has no answers. -/
def Charted (f : ScheduleFrame) (w : Workshop) : Prop :=
  ∀ i, match w.desks i with
    | none => answersTo w.heard i = []
    | some p => Follows f i (answersTo w.heard i) p

lemma Charted.follows (h : Charted f w) {p : Activity BlockEnd} (hdesk : w.desks i = some p) :
    Follows f i (answersTo w.heard i) p := by
  have hi := h i
  rw [hdesk] at hi
  exact hi

/-- What happens at one desk leaves the others as they are. -/
lemma Charted.place (h : Charted f w) {p : Activity BlockEnd} {heard : List (Nat × Reply)}
    (hother : ∀ j, j ≠ i → answersTo heard j = answersTo w.heard j)
    (hp : Follows f i (answersTo heard i) p) :
    Charted f (Workshop.place { w with heard } i p) := by
  intro j
  by_cases hj : j = i
  · subst hj
    simp only [Workshop.place, Function.update_self]
    exact hp
  · simp only [Workshop.place, Function.update_of_ne hj, hother j hj]
    exact h j

/-- **Every event keeps desks where the work has come.** -/
lemma Charted.of_effect (h : Charted f w) (heffect : Effect f w event w') : Charted f w' := by
  cases heffect with
  | idle | returned | stopped | booked => exact h
  | @begun i _ hdesk =>
      refine h.place (fun _ _ => rfl) ⟨w.run, fun replies e he => ?_⟩
      have hblank := h i
      rw [hdesk] at hblank
      rw [hblank]
      exact he
  | @answered i ms reply p c _ hdesk hc =>
      refine h.place (fun j hj => answersTo_append_of_ne hj _ _) ?_
      rw [answersTo_append_self]
      exact (h.follows hdesk).hear hc ms reply
  | tired _ hdesk hlate => exact h.place (fun _ _ => rfl) ((h.follows hdesk).late hlate)

/-! ## The books -/

/-- **What counts is in the ledger of the run.**  A block that gave something back was started and
does not run any more. -/
structure Balanced (f : ScheduleFrame) (w : Workshop) : Prop where
  sound : Run.Sound f.setup w.run
  charted : Charted f w
  once : ∀ i, w.ended i ≠ none → i ∈ w.run.started ∧ i ∉ w.run.running
  ledger : w.run.ledger = w.billed

/-- A workshop whose desks change keeps its books. -/
lemma Balanced.place (h : Balanced f w) {p : Activity BlockEnd} {heard : List (Nat × Reply)}
    (hcharted : Charted f (Workshop.place { w with heard } i p))
    (hbilled : (Workshop.place { w with heard } i p).billed = w.billed) :
    Balanced f (Workshop.place { w with heard } i p) :=
  ⟨h.sound, hcharted, h.once, h.ledger.trans hbilled.symm⟩

/-- A block that runs gave nothing back yet. -/
lemma Balanced.ended_eq_none (h : Balanced f w) (hi : i ∈ w.run.running) : w.ended i = none := by
  by_contra hended
  exact (h.once i hended).2 hi

lemma billed_append (hi : w.ended i = none) (reply : Reply) :
    billed { w with heard := w.heard ++ [(i, reply)] } = w.billed := by
  have hnone : countsAs w.ended (i, reply) = false := by rw [countsAs, hi]
  rw [billed, List.filter_append, List.filter_cons_of_neg (by simp [hnone]), List.filter_nil,
    List.append_nil, billed]

/-- What gave something back does not come to run again. -/
lemma Balanced.stays_over (h : Balanced f w) (event : RunEvent) (hi : w.ended i ≠ none) :
    i ∈ (w.run.step f.setup event).started ∧ i ∉ (w.run.step f.setup event).running := by
  have heffect := Run.step_effect f.setup w.run event
  obtain ⟨hstarted, hnot⟩ := h.once i hi
  refine ⟨Run.started_subset heffect hstarted, fun hmem => ?_⟩
  rcases Run.mem_running_of_effect h.sound heffect hmem with hrunning | hnew
  · exact hnot hrunning
  · exact hnew hstarted

lemma Balanced.book (h : Balanced f w) (hplanned : f.setup.Planned) {event : RunEvent}
    (hledger : (w.run.step f.setup event).ledger = w.run.ledger) :
    Balanced f (w.book f event) :=
  ⟨h.sound.of_effect hplanned (Run.step_effect f.setup w.run event), h.charted,
    fun _ => h.stays_over event, hledger.trans h.ledger⟩

/-- Being told to stop costs nothing. -/
lemma ledger_stops (s : RunSetup) (r : Run) (i : Nat) :
    (Run.step s r (.returns i .cancelled)).ledger = r.ledger := by
  by_cases hi : i ∈ r.running
  · rw [Run.ledger_returns hi]
    exact add_zero _
  · have hidle : Run.step s r (.returns i .cancelled) = r := by
      rw [Run.step, if_neg (by simpa using hi)]
    rw [hidle]

variable {shared : ModelBlocks} {checker : Option Checker} {config : EngineConfig}

/-- **A block that returns brings what it is billed for.** -/
lemma Balanced.giveBack (hm : shared.Metered)
    (hchecker : ∀ c ∈ checker, c.client = Activity.askModel .checker)
    (hengine : f.engine = Engine.standard shared checker config) (hplanned : f.setup.Planned)
    (h : Balanced f w) (hi : i ∈ w.run.running) {e : BlockEnd}
    (hdesk : w.desks i = some (.done e)) : Balanced f (w.giveBack f i e) := by
  have heffect := Run.step_effect f.setup w.run (.returns i e)
  have hended := h.ended_eq_none hi
  refine ⟨h.sound.of_effect hplanned heffect, h.charted, fun j hj => ?_, ?_⟩
  · by_cases hji : j = i
    · subst hji
      refine ⟨Run.started_subset heffect (h.sound.mem_started hi), ?_⟩
      have hstep : (w.giveBack f j e).run.running = Run.vacate w.run.running j := by
        rw [Workshop.giveBack, Workshop.book, Run.step, if_pos (by simpa using hi)]
      rw [hstep]
      exact h.sound.not_mem_vacate hi
    · have hsame : (w.giveBack f i e).ended j = w.ended j := Function.update_of_ne hji _ _
      rw [hsame] at hj
      exact h.stays_over (.returns i e) hj
  · -- what the block came to costs what it heard
    obtain ⟨r, hr⟩ := h.charted.follows hdesk
    have hwork := hr [] e (.done e)
    rw [List.append_nil, ScheduleFrame.workIn, hengine] at hwork
    have husage := Engine.usage_of_work hm hchecker hwork w.run.cancelled
    have hbilled : (w.giveBack f i e).billed =
        w.billed + (e.under w.run.cancelled).usage := by
      rw [husage]
      exact costOf_returned hended _ _
    rw [hbilled, ← h.ledger]
    exact Run.ledger_returns (s := f.setup) hi e

/-- **Every event keeps the books balanced.** -/
theorem Balanced.of_effect (hm : shared.Metered)
    (hchecker : ∀ c ∈ checker, c.client = Activity.askModel .checker)
    (hengine : f.engine = Engine.standard shared checker config) (hplanned : f.setup.Planned)
    (h : Balanced f w) (heffect : Effect f w event w') : Balanced f w' := by
  have hcharted := h.charted.of_effect heffect
  cases heffect with
  | idle => exact h
  | begun => exact h.place hcharted rfl
  | answered hi _ _ => exact h.place hcharted (billed_append (h.ended_eq_none hi) _)
  | tired => exact h.place hcharted rfl
  | returned hi hdesk => exact h.giveBack hm hchecker hengine hplanned hi hdesk
  | stopped => exact h.book hplanned (ledger_stops _ _ _)
  | @booked event hevent =>
      refine h.book hplanned (Run.ledger_of_effect h.sound (Run.step_effect _ _ event) ?_)
      rintro i e rfl
      cases hevent

lemma balanced_opened (hplanned : f.setup.Planned) (listener : Listener) (cancelled : Bool) :
    Balanced f (opened (Run.begin f.setup listener cancelled)) := by
  refine ⟨Run.sound_begin hplanned listener cancelled, fun i => rfl, fun i hi => ?_, ?_⟩
  · exact absurd rfl hi
  · exact add_zero _

/-- **The books are balanced at any time.** -/
theorem balanced_after (hm : shared.Metered)
    (hchecker : ∀ c ∈ checker, c.client = Activity.askModel .checker)
    (hengine : f.engine = Engine.standard shared checker config) (hplanned : f.setup.Planned)
    (listener : Listener) (cancelled : Bool) (events : List WorkEvent) :
    Balanced f ((opened (Run.begin f.setup listener cancelled)).after f events) := by
  refine after_invariant (fun w event h => ?_) events _
    (balanced_opened hplanned listener cancelled)
  exact h.of_effect hm hchecker hengine hplanned (step_effect f w event)

/-- When nothing is left to do, what counts is the usage. -/
lemma Balanced.usage_eq_billed (h : Balanced f w) (hdrained : w.run.isDrained) :
    (w.run.conclude f.setup).usage = w.billed := by
  rw [← h.ledger, Run.ledger_of_isDrained hdrained]
  show (Run.close f.setup w.run).usage = _
  rw [Run.close_books]

/-- **What a run bills.**  In a run with the standard executors, in whatever order its blocks go on
and whatever they are answered, the usage is the cost of the answers that count: those to blocks
that succeeded, and those to checks of blocks that returned.  What was received beside them is
forgotten. -/
theorem usage_conclude (hm : shared.Metered)
    (hchecker : ∀ c ∈ checker, c.client = Activity.askModel .checker)
    (hengine : f.engine = Engine.standard shared checker config) (hplanned : f.setup.Planned)
    (listener : Listener) (cancelled : Bool) (events : List WorkEvent) :
    let w := (opened (Run.begin f.setup listener cancelled)).after f events
    w.run.isDrained → (w.run.conclude f.setup).usage = w.billed ∧
      (w.run.conclude f.setup).usage + w.forgotten = w.received := by
  intro w hdrained
  have husage := (balanced_after hm hchecker hengine hplanned listener cancelled
    events).usage_eq_billed hdrained
  exact ⟨husage, by rw [husage, billed_add_forgotten]⟩

/-! ## What is forgotten -/

/-- A run of one block, whose model may not use any tool. -/
def toolless : ScheduleFrame :=
  { engine := .standard
      { client := Activity.askModel .worker
        invoker := {}
        model := { modelId := "small" }
        maxToolRounds := 0 } none {}
    options := {}
    setup :=
      { workflow :=
          { blocks :=
              [{ id := "a", normalizedId := "a", config := .llmInference { userPrompt := "go" } }] }
        plan := ⟨1, [], [0]⟩
        executionId := "run"
        trigger := [] }
    userId := none }

/-- Answers of which a model's asks for a tool. -/
def asksForTool : (c : Call) → c.Answer
  | .wait _ => ()
  | .ask _ _ => .ok { deltas := [.toolStart 0 "x" "mail", .usage ⟨10, 5⟩] }
  | .note _ => ()
  | .exchange _ => .unreachable
  | .attempts => []
  | .report _ _ => ()

/-- The block begins, hears that a tool is to be used, and fails. -/
def toollessRun : Workshop :=
  (opened (Run.begin toolless.setup {} false)).after toolless
    [.books .proceeds, .begins 0, .answers 0 3 asksForTool, .returns 0, .books (.joins 0)]

/-- Nothing of the turn that was received is in the usage; it is all forgotten. -/
theorem usage_conclude_toolless :
    toolless.setup.Planned ∧ toollessRun.run.isDrained ∧
      (toollessRun.run.conclude toolless.setup).usage = toollessRun.billed ∧
      toollessRun.billed = 0 ∧ toollessRun.forgotten = ⟨10, 5⟩ := by
  have hmetered : ModelBlocks.Metered
      { client := Activity.askModel .worker
        invoker := {}
        model := { modelId := "small" }
        maxToolRounds := 0 } := ⟨rfl, nofun⟩
  have hchecker : ∀ c ∈ (none : Option Checker), c.client = Activity.askModel .checker := by simp
  have hplanned : toolless.setup.Planned := rfl
  have hdrained : toollessRun.run.isDrained := by decide +kernel
  exact ⟨hplanned, hdrained,
    (usage_conclude hmetered hchecker rfl hplanned {} false
      [.books .proceeds, .begins 0, .answers 0 3 asksForTool, .returns 0, .books (.joins 0)]
      hdrained).1,
    by decide +kernel, by decide +kernel⟩

/-- So the usage of a run is not always the cost of all turns it received. -/
theorem usage_conclude_ne_received :
    toollessRun.run.isDrained = true ∧
      (toollessRun.run.conclude toolless.setup).usage ≠ toollessRun.received := by
  decide +kernel

end Workshop

/-! ## Executions -/

/-- **What an execution bills.**  It is a course of its workshop, and once nothing is left to do
there, its usage is the cost of the answers that count in this course. -/
theorem Engine.usage_of_execute {shared : ModelBlocks} {checker : Option Checker}
    {config : EngineConfig} (hm : shared.Metered)
    (hchecker : ∀ c ∈ checker, c.client = Activity.askModel .checker) {w : Workflow}
    {input : Json.Object} {options : ExecutionOptions} {listener : Listener} {cancelled : Bool}
    {cancelAt : Option Nat} {world : World} {last : Schedule} {result : ExecutionResult}
    (h : (standard shared checker config).execute w input options listener cancelled cancelAt
      world = .ok (last, result)) :
    ∃ (f : ScheduleFrame) (s : Schedule) (events : List WorkEvent),
      (standard shared checker config).launch w input options listener cancelled world =
        .ok (f, s) ∧
        let shop := (Workshop.opened s.run).after f events
        result = shop.run.conclude f.setup ∧
          (shop.run.isDrained → result.usage = shop.billed) := by
  obtain ⟨f, s, events, hlaunch, -, hresult, -⟩ := execute_eq_course h
  have hlaunched := launched_of_launch hlaunch
  obtain ⟨first, hquiet, hrun⟩ := hlaunched.run_eq_after
  -- the course goes back to the beginning, where the first blocks are to be started
  have hbalanced := Workshop.balanced_after hm hchecker hlaunched.engine hlaunched.planned listener
    cancelled (first.map .books ++ events)
  rw [Workshop.after_append, Workshop.after_books_opened _ _ hquiet, ← hrun] at hbalanced
  refine ⟨f, s, events, hlaunch, hresult, fun hdrained => ?_⟩
  rw [hresult]
  exact hbalanced.usage_eq_billed hdrained

end Blockflow
