import Blockflow.Proofs.Run.Comparison
import Blockflow.Proofs.Workshop

/-!
# Checks are best effort

A check stands between the end of a block's executor and the end of the block, so it delays what
comes behind the block and may change the order of everything.  It asks a model that may answer
anything, fail, or not answer in time.  Still a run with checks comes to what the run without them
comes to, unless a rejection was heard and counts.

* `Verdict.ofText_of_rejected` — only an answer that is a verdict and says so rejects a block.
* `Engine.verdict_of_work` — what the work on a block leaves of a check.
* `BlockState.unwarned`, `ExecutionResult.unreviewed` — what a check has no business to change.
* `Harmless`, `sequential_of_harmless` — ends that no check has harmed leave the same states, apart
  from warnings.
* `ScheduleFrame.Works` — the events of a run of a deployment.
* **`checks_are_harmless`** — runs with and without checks.
-/

namespace Blockflow

open Run

/-! ## Verdicts -/

/-- **Only an answer that is a verdict and says so rejects a block**; an unintelligible answer does
not. -/
lemma Verdict.ofText_of_rejected {answer : String} (h : (Verdict.ofAnswer answer).passed = false) :
    Verdict.codec.ofText (Structured.extract answer) = .ok (Verdict.ofAnswer answer) := by
  unfold Verdict.ofAnswer at h ⊢
  generalize Verdict.codec.ofText (Structured.extract answer) = parsed at h
  cases parsed with
  | ok v => rfl
  | error e => cases h

/-- A check comes to a verdict only if an answer came in time and without an error. -/
lemma Checker.verdict_judge {heard : Option (Except Error Turn)} {v : Verdict}
    (h : (judge heard).verdict = some v) :
    ∃ turn, heard = some (.ok turn) ∧ v = Verdict.ofAnswer turn.text := by
  cases heard with
  | none => cases h
  | some answer =>
      cases answer with
      | error e => cases h
      | ok turn => exact ⟨turn, rfl, (Option.some.inj h).symm⟩

/-- **What the work on a block leaves of a check.**  Without checks it leaves nothing, and a block
is rejected only where an answer of the checking model is such a verdict. -/
lemma Engine.verdict_of_work {e : Engine} {options : ExecutionOptions} {b : Block}
    {inputs : Json.Object} {context : BlockContext} {replies : List Reply} {ending : BlockEnd}
    (h : (e.work options b inputs context).Yields replies ending) :
    (options.enableBlockChecker = false → ending.verdict = none) ∧
      ∀ v, ending.verdict = some v → v.passed = false →
        ∃ answer, Verdict.codec.ofText (Structured.extract answer) = .ok v := by
  rw [Engine.work] at h
  obtain ⟨_, _, result, -, -, h⟩ := Activity.yields_bind_iff.mp h
  split at h
  · next output c hc =>
      obtain ⟨_, _, check, _, hcheck, hending⟩ := Activity.yields_bind_iff.mp h
      obtain ⟨_, rfl⟩ := Activity.yields_pure_iff.mp hending
      refine ⟨fun hoff => ?_, fun v hv hrejected => ?_⟩
      · simp [Engine.checkerFor, hoff] at hc
      · rw [Checker.check] at hcheck
        obtain ⟨_, _, heard, -, -, hjudge⟩ := Activity.yields_bind_iff.mp hcheck
        obtain ⟨_, rfl⟩ := Activity.yields_pure_iff.mp hjudge
        obtain ⟨turn, -, hturn⟩ := Checker.verdict_judge hv
        rw [hturn] at hrejected ⊢
        exact ⟨turn.text, Verdict.ofText_of_rejected hrejected⟩
  · obtain ⟨_, rfl⟩ := Activity.yields_pure_iff.mp h
    exact ⟨fun _ => rfl, nofun⟩

lemma BlockEnd.rejection_eq_none {e : BlockEnd} (h : ∀ v, e.verdict = some v → v.passed = true) :
    e.rejection = none := by
  rw [rejection]
  split
  · next v hv => rw [if_pos (h v hv)]
  · rfl

/-! ## What a check has no business to change -/

/-- A state without its warning. -/
def BlockState.unwarned (b : BlockState) : BlockState := { b with warning := none }

/-- What later blocks see of a state is not its warning. -/
lemma BlockState.seen_of_unwarned {b b' : BlockState} (h : b'.unwarned = b.unwarned) :
    b'.status = b.status ∧ b'.outputs = b.outputs := by
  have hstatus := congrArg BlockState.status h
  have houtputs := congrArg BlockState.outputs h
  exact ⟨hstatus, houtputs⟩

/-- A result without its times, warnings and usage. -/
def ExecutionResult.unreviewed (e : ExecutionResult) : ExecutionResult :=
  { e with
    blockStates := e.blockStates.mapValues fun b => b.untimed.unwarned
    usage := {}
    startedAt := ⟨0, 0⟩
    completedAt := ⟨0, 0⟩ }

/-- **Apart from times, warnings and usage, a result depends on what the blocks came to and
delivered**, apart from times and warnings. -/
lemma unreviewed_congr {s : RunSetup} {r r' : Run} (hs : s.Planned)
    (hsize : r.cells.length = s.size) (hsize' : r'.cells.length = s.size)
    (hstate : ∀ i < s.size,
      (r'.cell i).state.untimed.unwarned = (r.cell i).state.untimed.unwarned)
    (houtput : ∀ i < s.size, (r'.cell i).output = (r.cell i).output) (cancelled : Bool) :
    (result s r' cancelled).unreviewed = (result s r cancelled).unreviewed := by
  have hfield : ∀ {α : Type} (g : BlockState → α), (∀ b, g b.untimed.unwarned = g b) →
      ∀ i < s.size, g (r'.cell i).state = g (r.cell i).state := by
    intro α g hg i hi
    rw [← hg, hstate i hi, hg]
  obtain ⟨hoverall, herror⟩ := overall_congr hs hsize hsize'
    (hfield BlockState.status fun _ => rfl) (hfield BlockState.error fun _ => rfl)
    (hfield BlockState.errorKind fun _ => rfl) cancelled
  have houtputs := outputTable_congr hs houtput
  have hstates := mapValues_stateTable_congr hsize hsize' (fun b => b.untimed.unwarned) hstate
  simp only [ExecutionResult.unreviewed, result, hoverall, herror, houtputs, hstates]

/-- **An end that no check has harmed**: it keeps the result of the executor, and where verdicts
count it was not rejected. -/
def Harmless (counts : Bool) (results : Nat → Json.Object → Except Error BlockOutput) (i : Nat)
    (inputs : Json.Object) (e : BlockEnd) : Prop :=
  e.result = results i inputs ∧ (counts = true → e.rejection = none)

section Harmless

variable {s : RunSetup} {results : Nat → Json.Object → Except Error BlockOutput} {i : Nat}

/-- A verdict that does not count leaves a warning at most. -/
lemma Harmless.unwarned_record {inputs : Json.Object} {e e' : BlockEnd}
    (h : Harmless s.authoritative results i inputs e) (h' : Harmless true results i inputs e') :
    (e.record s.authoritative inputs).unwarned = (e'.record s.authoritative inputs).unwarned := by
  rw [BlockEnd.record, BlockEnd.record, h.1, h'.1, h'.2 rfl]
  cases results i inputs with
  | error failure => rfl
  | ok output =>
      cases hrejection : e.rejection with
      | none => rfl
      | some reason =>
          cases hcounts : s.authoritative with
          | false => rfl
          | true => rw [h.2 hcounts] at hrejection; cases hrejection

/-- **Verdicts that do not count leave warnings at most** in the evaluation of a workflow. -/
lemma sequential_of_harmless (hs : s.Planned) {outcome outcome' : Outcomes}
    (h : ∀ i inputs, Harmless s.authoritative results i inputs (outcome i inputs))
    (h' : ∀ i inputs, Harmless true results i inputs (outcome' i inputs)) (hi : i < s.size) :
    ((sequential s outcome).cell i).state.unwarned =
        ((sequential s outcome').cell i).state.unwarned ∧
      ((sequential s outcome).cell i).output = ((sequential s outcome').cell i).output :=
  sequential_congr hs outcome' outcome (fun b b' => b'.unwarned = b.unwarned)
    (p := fun _ => True) (fun _ _ _ _ => trivial) (fun _ => rfl)
    (fun _ _ h => BlockState.seen_of_unwarned h)
    (fun i _ inputs => (h i inputs).unwarned_record (h' i inputs)) hi trivial

end Harmless

/-! ## Runs of a deployment -/

namespace ScheduleFrame

/-- The frame with checks switched on or off. -/
def withChecks (f : ScheduleFrame) (on : Bool) : ScheduleFrame :=
  { f with options := { f.options with enableBlockChecker := on } }

@[simp] lemma setup_withChecks (f : ScheduleFrame) (on : Bool) :
    (f.withChecks on).setup = f.setup := rfl

/-- **The events of a run of a deployment** in which the executor of a block always comes to the
same on the same inputs, and which nobody cancels.  A block returns when the work on it has come to
its end, whatever was answered on the way to the model that checks it. -/
def Works (f : ScheduleFrame) (results : Nat → Json.Object → Except Error BlockOutput) (r : Run) :
    RunEvent → Prop
  | .returns i ending =>
    ending.result = results i (r.cell i).state.inputs ∧
      ∃ replies, (f.workIn r i).Yields replies ending
  | .joins _ | .proceeds | .ticks _ => True
  | .loses _ | .cancels => False

/-- What blocks come to in such a run can be taken to be given in advance. -/
lemma exists_outcomes_of_works {f : ScheduleFrame} (hs : f.setup.Planned) (counts : Bool)
    {results : Nat → Json.Object → Except Error BlockOutput} {listener : Listener}
    {events : List RunEvent}
    (h : Along f.setup (f.Works results) (begin f.setup listener false) events)
    (haccepted : counts = true → ∀ r i ending replies, .returns i ending ∈ events →
      (f.workIn r i).Yields replies ending → ∀ v, ending.verdict = some v → v.passed = true) :
    ∃ outcome told, (∀ i inputs, Harmless counts results i inputs (outcome i inputs)) ∧
      Along f.setup (Follows outcome) (begin f.setup listener false) told ∧
      after f.setup (begin f.setup listener false) told =
        after f.setup (begin f.setup listener false) events := by
  have hpossible : ∀ i inputs, ∃ ending, Harmless counts results i inputs ending :=
    fun i inputs => ⟨{ result := results i inputs }, rfl, fun _ => rfl⟩
  have hsome : Along f.setup (FollowsSome (Harmless counts results))
      (begin f.setup listener false) events := by
    refine Along.mono events _ h fun r event hevent hallowed => ?_
    cases event with
    | returns i ending =>
        obtain ⟨hresult, replies, hyields⟩ := hallowed
        refine ⟨hresult, fun hcounts => BlockEnd.rejection_eq_none ?_⟩
        exact haccepted hcounts r i ending replies hevent hyields
    | joins | proceeds | ticks | loses | cancels => exact hallowed
  obtain ⟨outcome, told, houtcome, hfollows, hafter, -⟩ :=
    exists_outcomes hs hpossible events _ (sound_begin hs listener false) hsome
  exact ⟨outcome, told, houtcome, hfollows, hafter⟩

end ScheduleFrame

/-- **Checks are best effort.**  Take a workflow that has a plan, any input, and executors that come
to the same on the same inputs.  Let the blocks be checked in one run and not in another; the model
that checks them may give any verdict, say something unintelligible, fail, or not answer in time;
blocks may return in any order in both runs.  When both have ended, their results are the same apart
from times, warnings and usage, provided that verdicts do not count, or that no answer was read as
a rejection. -/
theorem checks_are_harmless {f : ScheduleFrame} (hs : f.setup.Planned)
    (results : Nat → Json.Object → Except Error BlockOutput) (listener listener' : Listener)
    {events events' : List RunEvent}
    (hworks : Along f.setup ((f.withChecks true).Works results)
      (begin f.setup listener false) events)
    (hworks' : Along f.setup ((f.withChecks false).Works results)
      (begin f.setup listener' false) events')
    (hdrained : (after f.setup (begin f.setup listener false) events).isDrained)
    (hdrained' : (after f.setup (begin f.setup listener' false) events').isDrained)
    (haccepted : f.setup.authoritative = true → ∀ i ending v answer, .returns i ending ∈ events →
      ending.verdict = some v → Verdict.codec.ofText (Structured.extract answer) = .ok v →
      v.passed = true) :
    (conclude f.setup (after f.setup (begin f.setup listener false) events)).unreviewed =
      (conclude f.setup (after f.setup (begin f.setup listener' false) events')).unreviewed := by
  have hpassed : f.setup.authoritative = true → ∀ r i ending replies,
      .returns i ending ∈ events → ((f.withChecks true).workIn r i).Yields replies ending →
      ∀ v, ending.verdict = some v → v.passed = true := by
    intro hcounts r i ending replies hmem hyields v hv
    by_contra hrejected
    obtain ⟨answer, hanswer⟩ :=
      (Engine.verdict_of_work hyields).2 v hv (Bool.eq_false_of_not_eq_true hrejected)
    exact hrejected (haccepted hcounts i ending v answer hmem hv hanswer)
  have hunchecked : true = true → ∀ r i ending replies,
      .returns i ending ∈ events' → ((f.withChecks false).workIn r i).Yields replies ending →
      ∀ v, ending.verdict = some v → v.passed = true := by
    intro _ r i ending replies _ hyields v hv
    rw [(Engine.verdict_of_work hyields).1 rfl] at hv
    cases hv
  -- both runs are those of blocks whose ends are given in advance
  obtain ⟨outcome, told, hharmless, hfollows, hafter⟩ :=
    ScheduleFrame.exists_outcomes_of_works (f := f.withChecks true) hs f.setup.authoritative
      hworks hpassed
  obtain ⟨outcome', told', hharmless', hfollows', hafter'⟩ :=
    ScheduleFrame.exists_outcomes_of_works (f := f.withChecks false) hs true hworks' hunchecked
  rw [ScheduleFrame.setup_withChecks] at hfollows hafter hfollows' hafter'
  rw [← hafter] at hdrained ⊢
  rw [← hafter'] at hdrained' ⊢
  rw [conclude, conclude, uncancelled_of_follows hs listener hfollows,
    uncancelled_of_follows hs listener' hfollows']
  refine unreviewed_congr hs (length_close hs (sound_after hs listener' false told').size)
    (length_close hs (sound_after hs listener false told).size) (fun i hi => ?_)
    (fun i hi => ?_) false
  · rw [(cell_close_of_follows hs listener hfollows hdrained hi).1,
      (cell_close_of_follows hs listener' hfollows' hdrained' hi).1,
      (sequential_of_harmless hs hharmless hharmless' hi).1]
  · rw [(cell_close_of_follows hs listener hfollows hdrained hi).2,
      (cell_close_of_follows hs listener' hfollows' hdrained' hi).2,
      (sequential_of_harmless hs hharmless hharmless' hi).2]

/-- A deployment in which the one block asks a model, and another model says something
unintelligible about every block. -/
def ScheduleFrame.supervised : ScheduleFrame :=
  { engine :=
      { executors := ⟨[(.llmInference, fun _ _ _ => pure (.returned (.ok {})))]⟩
        checker := some
          { client := fun _ => pure (.ok { deltas := [.text "fine"] })
            model := default
            timeoutSecs := 10 } }
    options := {}
    setup :=
      { workflow :=
          { blocks := [{ id := "only", normalizedId := "only", config := .llmInference {} }] }
        plan := ⟨1, [], [0]⟩
        executionId := "run"
        trigger := []
        authoritative := true }
    userId := none }

/-- Where verdicts count, an unintelligible one lets the block pass. -/
theorem checks_are_harmless_supervised :
    let f := ScheduleFrame.supervised
    let checked : BlockEnd := { result := .ok {}, verdict := some ⟨true, ""⟩ }
    let last := after f.setup (begin f.setup {} false) [.proceeds, .returns 0 checked, .joins 0]
    let last' := after f.setup (begin f.setup {} false)
      [.proceeds, .returns 0 { result := .ok {} }, .joins 0]
    f.setup.Planned ∧ last.isDrained ∧ last'.isDrained ∧
      (conclude f.setup last).unreviewed = (conclude f.setup last').unreviewed := by
  intro f checked last last'
  have hs : f.setup.Planned := rfl
  have hdrained : last.isDrained := by decide
  have hdrained' : last'.isDrained := by decide
  refine ⟨hs, hdrained, hdrained', ?_⟩
  refine checks_are_harmless hs (fun _ _ => .ok {}) {} {}
    ⟨trivial, ⟨rfl, [], .done _⟩, trivial, trivial⟩
    ⟨trivial, ⟨rfl, [], .done _⟩, trivial, trivial⟩ hdrained hdrained' ?_
  intro _ i ending v _ hmem hv _
  have hending : ending = checked := by
    have : i = 0 ∧ ending = checked := by simpa using hmem
    exact this.2
  rw [hending] at hv
  rw [← Option.some.inj hv]

end Blockflow
