import Blockflow.Proofs.Run.Cells
import Blockflow.Proofs.Run.Events
import Blockflow.Schedule

/-!
# Schedules are runs

The scheduler decides when blocks begin, return and are written down.  Whatever it decides, all it
does to the run is to let events happen, so what holds of every run holds of every execution.

* `Schedule.Leads`, `Schedule.Follows` — one schedule follows from another by events of its run, and
  without a cancellation unless one is due.
* `follows_step?`, `leads_runUntil` — steps of the scheduler.
* `SameWork` — frames in which the same run has the same work, which no step tells apart.
* `Engine.Launched` — what a launch sets up.
* **`execute_eq_conclude`** — an execution is a run from its beginning, and its result is the
  result of that run.
-/

namespace Blockflow

namespace Schedule

variable {f : ScheduleFrame} {s s' s'' : Schedule}

/-- **One schedule follows from another by events of its run.** -/
def Leads (f : ScheduleFrame) (s s' : Schedule) : Prop :=
  ∃ events, s'.run = s.run.after f.setup events

/-- It follows without a cancellation, unless one is due at some time. -/
def Follows (f : ScheduleFrame) (s s' : Schedule) : Prop :=
  ∃ events, s'.run = s.run.after f.setup events ∧
    (s.cancelAt = none → s'.cancelAt = none ∧ RunEvent.cancels ∉ events)

lemma Follows.leads (h : Follows f s s') : Leads f s s' := by
  obtain ⟨events, hevents, -⟩ := h
  exact ⟨events, hevents⟩

lemma leads_of_run_eq (h : s'.run = s.run) : Leads f s s' := ⟨[], h⟩

lemma Leads.trans (h : Leads f s s') (h' : Leads f s' s'') : Leads f s s'' := by
  obtain ⟨front, hfront⟩ := h
  obtain ⟨back, hback⟩ := h'
  exact ⟨front ++ back, by rw [hback, hfront, Run.after_append]⟩

lemma leads_write (s : Schedule) (event : RunEvent) : Leads f s (s.write f event) := ⟨_, rfl⟩

lemma follows_of_run_eq (h : s'.run = s.run) (hcancel : s'.cancelAt = s.cancelAt) :
    Follows f s s' :=
  ⟨[], h, fun hnone => ⟨hcancel.trans hnone, List.not_mem_nil⟩⟩

lemma Follows.trans (h : Follows f s s') (h' : Follows f s' s'') : Follows f s s'' := by
  obtain ⟨front, hfront, hquiet⟩ := h
  obtain ⟨back, hback, hquiet'⟩ := h'
  refine ⟨front ++ back, by rw [hback, hfront, Run.after_append], fun hnone => ?_⟩
  obtain ⟨hnone, hnone_front⟩ := hquiet hnone
  obtain ⟨hnone, hnone_back⟩ := hquiet' hnone
  exact ⟨hnone, List.not_mem_append hnone_front hnone_back⟩

lemma follows_foldl {α : Type} {step : Schedule → α → Schedule}
    (h : ∀ s a, Follows f s (step s a)) (l : List α) : ∀ s, Follows f s (l.foldl step s) := by
  induction l with
  | nil => exact fun s => follows_of_run_eq rfl rfl
  | cons a l ih => exact fun s => (h s a).trans (ih _)

lemma follows_write (s : Schedule) (event : RunEvent) (hevent : event ≠ .cancels) :
    Follows f s (s.write f event) := by
  refine ⟨_, rfl, fun hnone => ⟨hnone, ?_⟩⟩
  simpa using hevent.symm

lemma follows_settle (s : Schedule) (i : Nat) (x : World × (Parked ⊕ BlockEnd)) :
    Follows f s (s.settle f i x) := by
  obtain ⟨world, p | e⟩ := x
  · exact follows_of_run_eq rfl rfl
  · have hworld : Follows f s { s with world } := follows_of_run_eq rfl rfl
    exact hworld.trans (follows_write _ _ nofun)

lemma follows_beginBlock (s : Schedule) (i : Nat) : Follows f s (s.beginBlock f i) := by
  rw [beginBlock]
  split_ifs
  · exact follows_write _ _ nofun
  · exact follows_settle _ _ _

lemma follows_beginAll (s : Schedule) : Follows f s (s.beginAll f) := by
  have hbegun : Follows f s { s with begun := s.run.started.length } := follows_of_run_eq rfl rfl
  exact hbegun.trans (follows_foldl follows_beginBlock _ _)

lemma follows_resumeDue (s : Schedule) : Follows f s (s.resumeDue f) := by
  have hparked : Follows f s
      { s with parked := s.parked.filter fun p => !(p.due ≤ s.world.clock) } :=
    follows_of_run_eq rfl rfl
  exact hparked.trans (follows_foldl (fun s (p : Parked) => follows_settle s p.block _) _ _)

lemma follows_cancelParked (s : Schedule) : Follows f s (s.cancelParked f) := by
  have hparked : Follows f s { s with parked := [] } := follows_of_run_eq rfl rfl
  exact hparked.trans (follows_foldl (fun s i => follows_write s (.returns i .cancelled) nofun) _ _)

lemma follows_join (s : Schedule) (i : Nat) : Follows f s (s.join f i) := by
  have hchores : Follows f (s.write f (.joins i)) (s.join f i) := by
    refine ⟨_, rfl, fun hnone => ⟨hnone, ?_⟩⟩
    simp
  exact (follows_write s (.joins i) nofun).trans hchores

lemma follows_joinAll (s : Schedule) : Follows f s (s.joinAll f) :=
  follows_foldl (fun s (x : Nat × BlockEnd) => follows_join s x.1) _ s

lemma follows_advance (s : Schedule) (time : Nat) : Follows f s (s.advance f time) := by
  have hworld : Follows f s { s with world := { s.world with clock := max s.world.clock time } } :=
    follows_of_run_eq rfl rfl
  rw [advance]
  split
  · next t hdue =>
      split_ifs
      · -- here a cancellation was due
        exact ⟨_, rfl, fun hnone => absurd (hnone.symm.trans hdue) nofun⟩
      · exact hworld
  · exact hworld

/-- **A step of the scheduler lets events happen**, and cancels nothing of its own accord. -/
theorem follows_step? (h : s.step? f = some s') : Follows f s s' := by
  rw [step?] at h
  split_ifs at h
  · cases h
    exact (follows_beginAll s).trans (follows_joinAll _)
  · cases h
    exact (follows_cancelParked s).trans (follows_joinAll _)
  · split at h
    · cases h
    · next time _ =>
        dsimp only at h
        split_ifs at h
        · cases h
          exact follows_advance s time
        · cases h
          exact ((follows_advance s time).trans (follows_resumeDue _)).trans (follows_joinAll _)

/-- So does the scheduler as a whole. -/
theorem leads_runUntil (stop : Schedule → Bool) (fuel : Nat) : ∀ s : Schedule,
    Leads f s (runUntil f stop fuel s) := by
  induction fuel with
  | zero => exact fun s => leads_of_run_eq rfl
  | succ fuel ih =>
      intro s
      rw [runUntil]
      split_ifs
      · exact leads_of_run_eq rfl
      · split
        · exact leads_of_run_eq rfl
        · next h => exact (follows_step? h).leads.trans (ih _)

/-! ## Schedules of the same work -/

/-- Frames in which the same run has the same work. -/
structure SameWork (f f' : ScheduleFrame) : Prop where
  setup : f'.setup = f.setup
  work : ∀ s i, workOf f' s i = workOf f s i

namespace SameWork

variable {f' : ScheduleFrame}

lemma write (h : SameWork f f') : Schedule.write f' = Schedule.write f := by
  funext s event
  rw [Schedule.write, Schedule.write, h.setup]

lemma settle (h : SameWork f f') (s : Schedule) (i : Nat) (x : World × (Parked ⊕ BlockEnd)) :
    s.settle f' i x = s.settle f i x := by
  obtain ⟨world, p | e⟩ := x
  · rfl
  · rw [Schedule.settle, Schedule.settle, h.write]

lemma beginBlock (h : SameWork f f') : Schedule.beginBlock f' = Schedule.beginBlock f := by
  funext s i
  rw [Schedule.beginBlock, Schedule.beginBlock, h.write, h.settle, h.work]

lemma resumeBlock (h : SameWork f f') : Schedule.resumeBlock f' = Schedule.resumeBlock f := by
  funext s p
  exact h.settle s p.block _

lemma joinAll (h : SameWork f f') (s : Schedule) : s.joinAll f' = s.joinAll f := by
  have hjoin : ∀ (s : Schedule) i, s.join f' i = s.join f i := by
    intro s i
    rw [join, join, h.write, h.setup]
  simp only [Schedule.joinAll, hjoin]

/-- **A step does not tell them apart.** -/
theorem step? (h : SameWork f f') (s : Schedule) : s.step? f' = s.step? f := by
  have hadvance : ∀ time, s.advance f' time = s.advance f time := by
    intro time
    rw [advance, advance, h.write]
  simp only [Schedule.step?, h.joinAll, beginAll, h.beginBlock, cancelParked, h.write, hadvance,
    resumeDue, h.resumeBlock]

lemma runUntil (h : SameWork f f') (stop : Schedule → Bool) (fuel : Nat) : ∀ s : Schedule,
    Schedule.runUntil f' stop fuel s = Schedule.runUntil f stop fuel s := by
  induction fuel with
  | zero => exact fun _ => rfl
  | succ fuel ih =>
      intro s
      rw [Schedule.runUntil, Schedule.runUntil, h.step?]
      split_ifs
      · rfl
      · cases s.step? f with
        | none => rfl
        | some s' => exact ih s'

lemma conclude (h : SameWork f f') (s : Schedule) : s.conclude f' = s.conclude f := by
  rw [Schedule.conclude, Schedule.conclude, h.setup]

end SameWork

end Schedule

namespace Engine

open Run

lemma build_of_validate {e : Engine} {w : Workflow} {plan : Plan} (h : e.validate w = .ok plan) :
    Plan.build w = .ok plan := by
  rw [validate] at h
  cases hbuild : Plan.build w with
  | error failure => rw [hbuild] at h; cases h
  | ok built =>
      rw [hbuild] at h
      simp only [bind, Except.bind] at h
      split at h
      · cases h
      · cases h
        rfl

/-- **What a launch sets up**: a plan for the workflow, and a run at its beginning, in which nothing
waits and nothing was asked. -/
structure Launched (e : Engine) (w : Workflow) (listener : Listener) (cancelled : Bool)
    (world : World) (f : ScheduleFrame) (s : Schedule) : Prop where
  engine : f.engine = e
  workflow : f.setup.workflow = w
  planned : f.setup.Planned
  run : s.run = (begin f.setup listener cancelled).catchUp f.setup
  parked : s.parked = []
  begun : s.begun = 0
  cancelAt : s.cancelAt = none
  requests : s.world.requests = world.requests
  uses : s.world.uses = world.uses

lemma launched_of_launch {e : Engine} {w : Workflow} {input : Json.Object}
    {options : ExecutionOptions} {listener : Listener} {cancelled : Bool} {world : World}
    {f : ScheduleFrame} {s : Schedule}
    (h : e.launch w input options listener cancelled world = .ok (f, s)) :
    Launched e w listener cancelled world f s := by
  rw [launch] at h
  cases hplan : e.validate w with
  | error failure => rw [hplan] at h; cases h
  | ok plan =>
      rw [hplan] at h
      simp only [bind, Except.bind, pure, Except.pure, Except.ok.injEq, Prod.mk.injEq] at h
      obtain ⟨rfl, rfl⟩ := h
      have hplanned := build_of_validate hplan
      cases options.executionId <;> exact ⟨rfl, rfl, hplanned, rfl, rfl, rfl, rfl, rfl, rfl⟩

/-- An execution is a launch, and what the scheduler makes of it. -/
lemma exists_launch_of_execute {e : Engine} {w : Workflow} {input : Json.Object}
    {options : ExecutionOptions} {listener : Listener} {cancelled : Bool} {cancelAt : Option Nat}
    {world : World} {last : Schedule} {result : ExecutionResult}
    (h : e.execute w input options listener cancelled cancelAt world = .ok (last, result)) :
    ∃ f s, e.launch w input options listener cancelled world = .ok (f, s) ∧
      (Schedule.runUntil f (fun _ => false) Schedule.stepLimit { s with cancelAt }).conclude f =
        (last, result) := by
  rw [execute] at h
  cases hlaunch : e.launch w input options listener cancelled world with
  | error failure =>
      rw [hlaunch] at h
      cases h
  | ok launched =>
      rw [hlaunch] at h
      exact ⟨launched.1, launched.2, rfl, Except.ok.inj h⟩

/-- **An execution is a run from its beginning**, and its result is the result of that run. -/
theorem execute_eq_conclude {e : Engine} {w : Workflow} {input : Json.Object}
    {options : ExecutionOptions} {listener : Listener} {cancelled : Bool} {cancelAt : Option Nat}
    {world : World} {last : Schedule} {result : ExecutionResult}
    (h : e.execute w input options listener cancelled cancelAt world = .ok (last, result)) :
    ∃ (setup : RunSetup) (events : List RunEvent), setup.workflow = w ∧ setup.Planned ∧
      last.run = close setup (after setup (begin setup listener cancelled) events) ∧
      result = conclude setup (after setup (begin setup listener cancelled) events) := by
  obtain ⟨f, s, hlaunch, hlast⟩ := exists_launch_of_execute h
  have hlaunched := launched_of_launch hlaunch
  obtain ⟨events, hevents⟩ := Schedule.leads_runUntil (f := f) (fun _ => false)
    Schedule.stepLimit { s with cancelAt }
  obtain ⟨rfl, rfl⟩ := hlast
  generalize Schedule.runUntil f (fun _ => false) Schedule.stepLimit { s with cancelAt } = final
    at hevents
  -- the chores of the beginning, what the scheduler let happen, and a last look at the clock
  have hfinal : after f.setup final.run [.ticks final.world.now] =
      after f.setup (begin f.setup listener cancelled)
        ((begin f.setup listener cancelled).chores.map (fun _ => .proceeds) ++ events ++
          [.ticks final.world.now]) := by
    rw [after_append, after_append, hevents, hlaunched.run]
    rfl
  exact ⟨f.setup, _, hlaunched.workflow, hlaunched.planned, congrArg (close f.setup) hfinal,
    congrArg (conclude f.setup) hfinal⟩

end Engine

end Blockflow
