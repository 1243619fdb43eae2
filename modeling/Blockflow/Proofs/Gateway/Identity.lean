import Blockflow.Proofs.Activity.Paths
import Blockflow.Proofs.Gateway.Caller
import Blockflow.Proofs.Gateway.Moves
import Blockflow.Rehearsal

/-!
# Whom a gateway acts for

A caller is the user of the first key that equals the presented token, or anybody at an open
gateway.  That user's name is what agents and credentials are looked up with and what tools are
told, in a run over HTTP as in a run of a live session.  Nothing that arrives later changes it: not
the input, which may hold a user's name of its own, not the workflow, and neither what a model says
nor what a tool returns.

* `Access.Admits` — who is behind a token.
* `Engine.Permits`, `ScheduleFrame.ActsFor` — work in which tools are run for one user only, with
  the user's own credentials.
* `Session.SameFor` — sessions that a user cannot tell apart, kept by every event (`SameFor.step`).
* **`Gateway.acts_for_caller`** — every run for a caller, and all that the caller is told of it.
-/

namespace Blockflow

/-! ## The caller -/

/-- **Who is behind a token**: the user of the first key that equals it. -/
inductive Access.Admits : List ApiKeyConfig → Option String → Identity → Prop
  | open (token : Option String) : Admits [] token anonymous
  | key (front : List ApiKeyConfig) (key : ApiKeyConfig) (back : List ApiKeyConfig)
    (first : ∀ k ∈ front, k.key ≠ key.key) :
    Admits (front ++ key :: back) (some key.key) ⟨key.name, key.userId⟩

lemma Access.admits_of_identify {keys : List ApiKeyConfig} {bearer query : Option String}
    {caller : Identity} (h : identify keys bearer query = some caller) :
    Admits keys (bearer.or query) caller := by
  rw [identify] at h
  split_ifs at h with hempty
  · obtain rfl := List.isEmpty_iff.mp hempty
    cases h
    exact .open _
  · cases htoken : bearer.or query with
    | none =>
        rw [htoken] at h
        cases h
    | some token =>
        rw [htoken] at h
        cases hkey : keys.find? fun k => k.key = token with
        | none =>
            simp only [bind, Option.bind, hkey] at h
            cases h
        | some key =>
            simp only [bind, Option.bind, hkey] at h
            cases h
            obtain ⟨heq, front, back, rfl, hfirst⟩ := List.find?_eq_some_iff_append.mp hkey
            obtain rfl : key.key = token := by simpa using heq
            exact .key front key back fun k hk => by simpa using hfirst k hk

/-! ## Work for one user -/

/-- **What is called from outside on behalf of a user**: models make only such calls, and so does
every tool that is run for the user with the credential that it should get. -/
structure Engine.Permits (shared : ModelBlocks) (checker : Option Checker) (user : String)
    (C : Call → Prop) : Prop where
  client : ∀ request, (shared.client request).Only C
  checker : ∀ c ∈ checker, ∀ request, (c.client request).Only C
  tools : ∀ name tool, shared.invoker.toolbox.get? name = some tool → ∀ input context,
    context.userId = some user →
    shared.invoker.credentialFor tool (some user) = .ok context.credential →
    (tool.run input context).Only C

lemma Engine.Permits.invoke {shared : ModelBlocks} {checker : Option Checker} {user : String}
    {C : Call → Prop} (h : Permits shared checker user C) :
    Invoker.Related (fun p _ => p.Only C) shared.invoker shared.invoker (some user)
      (some user) where
  definitions := rfl
  invoke name arguments executionId blockId := by
    rw [Invoker.invoke]
    cases htool : shared.invoker.toolbox.get? name with
    | none => exact trivial
    | some tool =>
        dsimp only
        cases hc : shared.invoker.credentialFor tool (some user) with
        | error failure => exact trivial
        | ok c =>
            simp only [Toolbox.execute, htool]
            refine Activity.Only.bind (Activity.Only.bind ((h.tools name tool htool _
              ⟨executionId, blockId, some user, c⟩ rfl hc).timeout _) fun result => ?_)
              fun _ => trivial
            cases result <;> exact trivial

/-- **Work for a user**: it is done in the user's name, and comes to nothing but what is permitted
on behalf of the user. -/
def ScheduleFrame.ActsFor (shared : ModelBlocks) (checker : Option Checker) (user : String)
    (f : ScheduleFrame) : Prop :=
  f.userId = some user ∧
    ∀ C, Engine.Permits shared checker user C → ∀ s i, (Schedule.workOf f s i).Only C

/-- Where models keep no record and tools record the contexts they are given, every recorded context
carries the user. -/
theorem ScheduleFrame.ActsFor.userId_of_note {shared : ModelBlocks} {checker : Option Checker}
    {user : String} {f : ScheduleFrame} (h : f.ActsFor shared checker user)
    (hclient : ∀ request, (shared.client request).Only fun c => ∀ use, c ≠ .note use)
    (hchecker : ∀ c ∈ checker, ∀ request, (c.client request).Only fun c => ∀ use, c ≠ .note use)
    (htools : ∀ name tool, shared.invoker.toolbox.get? name = some tool → ∀ input context,
      (tool.run input context).Only fun c => ∀ use, c = .note use → use.context = context)
    (s : Schedule) (i : Nat) :
    (s.workOf f i).Only fun c => ∀ use, c = .note use → use.context.userId = some user := by
  have hsilent {c : Call} (hc : ∀ use, c ≠ .note use) :
      ∀ use, c = .note use → use.context.userId = some user := fun use h => absurd h (hc use)
  refine h.2 _ ⟨fun request => (hclient request).mono fun _ => hsilent,
    fun c hc request => (hchecker c hc request).mono fun _ => hsilent, ?_⟩ s i
  intro name tool htool input context huser _
  refine (htools name tool htool input context).mono fun c hc use huse => ?_
  rw [hc use huse, huser]

namespace Gateway

variable {shared : ModelBlocks} {checker : Option Checker} {config : EngineConfig}

/-- **A run is launched in the name it was prepared in.** -/
lemma actsFor_launch {g : Gateway} (hengine : g.engine = .standard shared checker config)
    {run : PreparedRun} {cancelled : Bool} {world : World} {f : ScheduleFrame} {s : Schedule}
    (h : g.launch run cancelled world = .ok (f, s)) : f.ActsFor shared checker run.userId := by
  rw [launch, Engine.launch, hengine, Engine.validate_standard, userId_inputFor] at h
  cases hplan : Plan.build run.workflow with
  | error e =>
      rw [hplan] at h
      cases h
  | ok plan =>
      rw [hplan] at h
      cases h
      refine ⟨rfl, fun C hC s i => ?_⟩
      exact Engine.related_work (Activity.congruence_only C) hC.client hC.checker hC.invoke _ _ _
        _ rfl

end Gateway

/-! ## Sessions -/

/-- **Runs of a user that go the same way**: they have come equally far, with the same work
before them. -/
inductive RunPhase.SameFor (user : String) : RunPhase → RunPhase → Prop
  | accepted {r : RunRequest} (hr : r.userId = user) : SameFor user (.accepted r) (.accepted r)
  | running {run : PreparedRun} (since : Nat) {f f' : ScheduleFrame} (s : Schedule) (told : Nat)
    (hrun : run.userId = user) (hwork : Schedule.SameWork f f') :
    SameFor user (.running run since f s told) (.running run since f' s told)
  | concluded {run : PreparedRun} (ms : Nat) (result : ExecutionResult)
    (heard : List ExecutionUpdate) (told : Nat) (hrun : run.userId = user) :
    SameFor user (.concluded run ms result heard told) (.concluded run ms result heard told)
  | reported : SameFor user .reported .reported
  | finished : SameFor user .finished .finished

/-- Runs of a user that go the same way and were equally told to stop. -/
inductive RunTask.SameFor (user : String) : RunTask → RunTask → Prop
  | mk {phase phase' : RunPhase} (hphase : phase.SameFor user phase') (cancelled : Bool) :
    SameFor user ⟨phase, cancelled⟩ ⟨phase', cancelled⟩

/-- **Sessions that a user cannot tell apart**: they differ at most in what the gateway keeps for
others and in the engine that works on the run. -/
inductive Session.SameFor : Session → Session → Prop
  | mk {c : Session} {state : GatewayState} {task : Option RunTask}
    (hstate : c.state.SameFor c.identity.userId state)
    (htask : Option.Rel (RunTask.SameFor c.identity.userId) c.task task) :
    SameFor c { c with state, task }

/-- Events that are the same for a user: others may have changed what the gateway keeps. -/
inductive SessionEvent.SameFor (user : String) : SessionEvent → SessionEvent → Prop
  | same (event : SessionEvent) : (∀ s, event ≠ .shares s) → SameFor user event event
  | shares {s s' : GatewayState} (h : s.SameFor user s') : SameFor user (.shares s) (.shares s')

namespace RunTask.SameFor

variable {user : String} {t t' : RunTask}

lemma isRunning (h : t.SameFor user t') : t'.isRunning = t.isRunning := by
  obtain ⟨hphase, cancelled⟩ := h
  cases hphase <;> rfl

lemma cancel (h : t.SameFor user t') : t.cancel.SameFor user t'.cancel := by
  obtain ⟨hphase, cancelled⟩ := h
  refine .mk ?_ true
  cases hphase with
  | accepted hr => exact .accepted hr
  | running since s told hrun hwork =>
      dsimp only
      rw [hwork.write]
      exact .running since _ told hrun hwork
  | concluded ms result heard told hrun => exact .concluded ms result heard told hrun
  | reported => exact .reported
  | finished => exact .finished

end RunTask.SameFor

namespace Session.SameFor

variable {g g' : Gateway} {c c' : Session}

lemma isBusy (h : c.SameFor c') : c'.isBusy = c.isBusy := by
  obtain ⟨hstate, htask⟩ := h
  rw [Session.isBusy, Session.isBusy]
  dsimp only
  generalize c.task = task at htask
  cases htask with
  | none => rfl
  | some h => exact h.isRunning

lemma send (h : c.SameFor c') (frame : ServerFrame) :
    (c.send frame).SameFor (c'.send frame) := by
  obtain ⟨hstate, htask⟩ := h
  exact .mk hstate htask

/-- A run goes on, perhaps in another world and with another state of the gateway. -/
lemma goOn (h : c.SameFor c') {state state' : GatewayState}
    (hstate : state.SameFor c.identity.userId state') (world : World) {phase phase' : RunPhase}
    (hphase : phase.SameFor c.identity.userId phase') (cancelled : Bool) :
    SameFor { c with state, world, task := some ⟨phase, cancelled⟩ }
      { c' with state := state', world, task := some ⟨phase', cancelled⟩ } := by
  obtain ⟨-, -⟩ := h
  exact .mk hstate (.some (.mk hphase cancelled))

lemma cancelRun (h : c.SameFor c') : c.cancelRun.SameFor c'.cancelRun := by
  obtain ⟨hstate, htask⟩ := h
  refine .mk hstate ?_
  dsimp only [Session.cancelRun]
  generalize c.task = task at htask
  cases htask with
  | none => exact .none
  | some h => exact .some h.cancel

/-- What a client sends is obeyed the same. -/
lemma receive (h : c.SameFor c') (text : String) : (c.receive text).SameFor (c'.receive text) := by
  rw [Session.receive, Session.receive]
  cases ClientFrame.codec.ofText text with
  | error wording => exact h.send _
  | ok frame =>
      cases frame with
      | executeWorkflow r =>
          dsimp only [obey]
          rw [h.isBusy]
          split_ifs
          · exact h.send _
          · have hr : (c.requestOf r).userId = c.identity.userId := rfl
            obtain ⟨hstate, -⟩ := h
            exact .mk hstate (.some (.mk (.accepted hr) false))
      | cancelExecution =>
          dsimp only [obey]
          rw [h.isBusy]
          split_ifs
          · exact h.cancelRun
          · exact h

/-- A run is prepared the same. -/
lemma prepare (h : c.SameFor c') (hg : g.SameFor c.identity.userId g') (o : Outages)
    (phase phase' : RunPhase) (cancelled : Bool) {r : RunRequest}
    (hr : r.userId = c.identity.userId) :
    (c.prepare g o ⟨phase, cancelled⟩ r).SameFor (c'.prepare g' o ⟨phase', cancelled⟩ r) := by
  have hgoOn {state state' : GatewayState} (hstate : state.SameFor c.identity.userId state')
      {phase phase' : RunPhase} (hphase : phase.SameFor c.identity.userId phase') :=
    h.goOn hstate c.world.freshId.1 hphase cancelled
  obtain ⟨hstate, htask⟩ := h
  obtain ⟨hanswer, hnext⟩ := hg.prepare hstate o c.world.freshId.1.now c.world.freshId.2 hr
  rw [Session.prepare, Session.prepare]
  dsimp only
  generalize hp : g.prepare c.state o c.world.freshId.1.now c.world.freshId.2 r = p
    at hanswer hnext
  generalize g'.prepare _ o c.world.freshId.1.now c.world.freshId.2 r = p' at hanswer hnext
  obtain ⟨state, answer⟩ := p
  obtain ⟨state', answer'⟩ := p'
  -- both are given the same answer, so they reject the same run or launch it with the same work
  obtain rfl : answer' = answer := hanswer
  cases answer' with
  | error e => exact (hgoOn hnext .reported).send _
  | ok run =>
      have hrun : run.userId = c.identity.userId :=
        (Gateway.userId_of_prepare (congrArg Prod.snd hp)).2.trans hr
      have hlaunch := hg.launch hrun cancelled c.world.freshId.1
      dsimp only
      generalize g.launch run cancelled c.world.freshId.1 = l,
        g'.launch run cancelled c.world.freshId.1 = l' at hlaunch
      cases l with
      | error e =>
          cases l' with
          | ok _ => exact hlaunch.elim
          | error e' =>
              obtain rfl : e' = e := hlaunch
              exact (hgoOn hnext (.concluded 0 _ [] 0 hrun)).send _
      | ok launched =>
          cases l' with
          | error _ => exact hlaunch.elim
          | ok launched' =>
              obtain ⟨f, s⟩ := launched
              obtain ⟨f', s'⟩ := launched'
              obtain ⟨rfl, hwork, -⟩ := hlaunch
              exact (hgoOn hnext (.running _ _ 0 hrun hwork)).send _

/-- The end of a run is reported the same. -/
lemma report (h : c.SameFor c') (hg : g.SameFor c.identity.userId g') (o : Outages)
    (phase phase' : RunPhase) (cancelled : Bool) (run : PreparedRun) (ms : Nat)
    (result : ExecutionResult) :
    (c.report g o ⟨phase, cancelled⟩ run ms result).SameFor
      (c'.report g' o ⟨phase', cancelled⟩ run ms result) := by
  have hgoOn {state state' : GatewayState} (hstate : state.SameFor c.identity.userId state') :=
    h.goOn hstate c.world .reported cancelled
  obtain ⟨hstate, htask⟩ := h
  obtain ⟨hdone, hnext⟩ := hg.report hstate o c.world.now run result ms
  rw [Session.report, Session.report]
  dsimp only
  rw [hdone]
  exact (hgoOn hnext).send _

/-- A step of the engine leads to the same phase in the same world. -/
lemma advance {user : String} {run : PreparedRun} (hrun : run.userId = user) (since : Nat)
    {f f' : ScheduleFrame} (hwork : Schedule.SameWork f f') (s : Schedule) (told : Nat) :
    (Session.advance run since f s told).1.SameFor user (Session.advance run since f' s told).1 ∧
      (Session.advance run since f' s told).2 = (Session.advance run since f s told).2 := by
  rw [Session.advance, Session.advance, hwork.step?, hwork.conclude]
  cases s.step? f with
  | none => exact ⟨.concluded _ _ _ told hrun, rfl⟩
  | some s => exact ⟨.running since s told hrun hwork, rfl⟩

/-- The run is worked on the same. -/
lemma workOn (h : c.SameFor c') (hg : g.SameFor c.identity.userId g') {t t' : RunTask}
    (ht : t.SameFor c.identity.userId t') (event : SessionEvent) :
    (c.workOn g t event).SameFor (c'.workOn g' t' event) := by
  obtain ⟨hphase, cancelled⟩ := ht
  have hkeep {phase phase' : RunPhase} (hphase : phase.SameFor c.identity.userId phase') :
      SameFor { c with task := some ⟨phase, cancelled⟩ }
        { c' with task := some ⟨phase', cancelled⟩ } := by
    obtain ⟨hstate, htask⟩ := h
    exact .mk hstate (.some (.mk hphase cancelled))
  cases event with
  | receives | receivesOther | closes | delivers | shares => exact h
  | prepares o =>
      cases hphase with
      | accepted hr => exact h.prepare hg o _ _ cancelled hr
      | running | concluded | reported | finished => exact h
  | runs =>
      cases hphase with
      | running since s told hrun hwork =>
          obtain ⟨hnext, hworld⟩ := advance hrun since hwork s told
          have hgoOn {state state' : GatewayState}
              (hstate : state.SameFor c.identity.userId state') (world : World) :=
            h.goOn hstate world hnext cancelled
          obtain ⟨hstate, htask⟩ := h
          dsimp only [Session.workOn]
          rw [hworld]
          exact hgoOn hstate _
      | accepted | concluded | reported | finished => exact h
  | forwards =>
      cases hphase with
      | running since s told hrun hwork =>
          dsimp only [Session.workOn]
          split
          · exact (hkeep (.running since s _ hrun hwork)).send _
          · exact h
      | concluded ms result heard told hrun =>
          dsimp only [Session.workOn]
          split
          · exact (hkeep (.concluded ms result heard _ hrun)).send _
          · exact h
      | accepted | reported | finished => exact h
  | reports o =>
      cases hphase with
      | concluded ms result heard told hrun =>
          dsimp only [Session.workOn]
          split_ifs
          · exact h.report hg o _ _ cancelled _ ms result
          · exact h
      | accepted | running | reported | finished => exact h
  | finishes =>
      cases hphase with
      | reported => exact hkeep .finished
      | accepted | running | concluded | finished => exact h

/-- **An event keeps sessions the same for a user.** -/
lemma step (h : c.SameFor c') (hg : g.SameFor c.identity.userId g') {event event' : SessionEvent}
    (hevent : event.SameFor c.identity.userId event') :
    (c.step g event).SameFor (c'.step g' event') := by
  have hwork : event.isWork = true → (c.step g event).SameFor (c'.step g' event) := by
    intro hevent
    have hworkOn := fun t t' (ht : RunTask.SameFor c.identity.userId t t') => h.workOn hg ht event
    have hsame := h
    obtain ⟨hstate, htask⟩ := h
    generalize hc : c.task = task at htask
    cases htask with
    | none =>
        rw [Session.step_of_none hevent hc, Session.step_of_none hevent rfl]
        exact hsame
    | some ht =>
        rw [Session.step_of_some hevent hc, Session.step_of_some hevent rfl]
        exact hworkOn _ _ ht
  cases hevent with
  | same event hevent =>
      cases event with
      | shares s => exact absurd rfl (hevent s)
      | receives text =>
          obtain ⟨hstate, htask⟩ := h
          dsimp only [Session.step]
          split_ifs
          · exact (SameFor.mk hstate htask).receive text
          · exact .mk hstate htask
      | receivesOther => exact h
      | closes =>
          obtain ⟨hstate, htask⟩ := h
          dsimp only [Session.step]
          split_ifs
          · obtain ⟨hstate, htask⟩ := (SameFor.mk hstate htask).cancelRun
            exact .mk hstate htask
          · exact .mk hstate htask
      | delivers =>
          obtain ⟨hstate, htask⟩ := h
          dsimp only [Session.step]
          split
          · exact .mk hstate htask
          · exact .mk hstate htask
      | prepares | runs | forwards | reports | finishes => exact hwork rfl
  | shares hs =>
      obtain ⟨hstate, htask⟩ := h
      exact .mk hs htask

/-- **So do any number of events.** -/
theorem after {user : String} (hg : g.SameFor user g') {events events' : List SessionEvent}
    (hevents : List.Forall₂ (SessionEvent.SameFor user) events events') :
    ∀ {c c' : Session}, c.identity.userId = user → c.SameFor c' →
      (c.after g events).SameFor (c'.after g' events') := by
  induction hevents with
  | nil => exact fun _ h => h
  | cons hevent _ ih =>
      rintro c c' rfl h
      exact ih (congrArg Identity.userId (identity_step c _)) (h.step hg hevent)

end Session.SameFor

/-! ## The work of a session -/

/-- **A run of a user**, however far it has come: it was asked for and prepared in the user's name,
and the engine works on it for the user. -/
def RunPhase.ActsFor (shared : ModelBlocks) (checker : Option Checker) (user : String) :
    RunPhase → Prop
  | .accepted r => r.userId = user
  | .running run _ frame _ _ => run.userId = user ∧ frame.ActsFor shared checker user
  | .concluded run _ _ _ _ => run.userId = user
  | .reported | .finished => True

namespace Session

variable {shared : ModelBlocks} {checker : Option Checker} {config : EngineConfig} {g : Gateway}
  {user : String}

lemma actsFor_cancel {t : RunTask} (h : t.phase.ActsFor shared checker user) :
    t.cancel.phase.ActsFor shared checker user := by
  obtain ⟨phase, cancelled⟩ := t
  cases phase <;> exact h

lemma actsFor_move (hengine : g.engine = .standard shared checker config) {t t' : RunTask}
    {frames : List ServerFrame} (hmove : t.Move g t' frames)
    (h : t.phase.ActsFor shared checker user) : t'.phase.ActsFor shared checker user := by
  cases hmove with
  | rejects | reports | finishes => exact trivial
  | starts hprepared hlaunch since =>
      obtain rfl := h
      have huser := (Gateway.userId_of_prepare hprepared).2
      refine ⟨huser, ?_⟩
      rw [← huser]
      exact Gateway.actsFor_launch hengine hlaunch
  | advances | tells | tellsLate => exact h
  | ends => exact h.1

lemma actsFor_step (hengine : g.engine = .standard shared checker config) {c : Session}
    (h : ∀ t ∈ c.task, t.phase.ActsFor shared checker c.identity.userId) (event : SessionEvent) :
    ∀ t ∈ (c.step g event).task, t.phase.ActsFor shared checker c.identity.userId := by
  intro u hu
  have heffect := step_effect (g := g) c event
  generalize c.reading event = reading, c.step g event = c' at heffect hu
  cases heffect with
  | idle htask | complains htask => exact h u (htask ▸ hu)
  | accepts _ hr htask =>
      obtain rfl := Option.some.inj (htask.symm.trans hu)
      exact hr
  | stops ht htask | leaves ht _ htask =>
      obtain rfl := Option.some.inj (htask.symm.trans hu)
      exact actsFor_cancel (h _ ht)
  | works ht hmove htask =>
      obtain rfl := Option.some.inj (htask.symm.trans hu)
      exact actsFor_move hengine hmove (h _ ht)

/-- **Every run of a session is a run of its caller.** -/
theorem actsFor_after (hengine : g.engine = .standard shared checker config)
    (events : List SessionEvent) : ∀ {c : Session},
    (∀ t ∈ c.task, t.phase.ActsFor shared checker c.identity.userId) →
    ∀ t ∈ (c.after g events).task, t.phase.ActsFor shared checker c.identity.userId := by
  induction events with
  | nil => exact fun h => h
  | cons event events ih =>
      intro c h
      have hstep := actsFor_step hengine h event
      rw [← identity_step (g := g) c event] at hstep ⊢
      exact ih hstep

end Session

/-! ## The callers of a gateway -/

/-- The token that a request presents. -/
def Rest.presented (request : Http.Request) : Option String :=
  (Access.bearerToken? (header? request "authorization")).or
    (Access.queryToken? (query request.url))

/-- **A gateway acts for its caller.**  Whoever sends a request is the user of the first key that
equals the presented token, or anybody if there are no keys.  For this user's sake alone the gateway
acts:

* a run over HTTP is prepared and launched in the caller's name, and so is every run of a live
  session;
* gateways that agree on the caller — on the caller's agents and credentials and on what tools do
  for the caller with these — give the same answers and lead the same sessions, whatever they
  know of others and whatever the body, the workflow, models and tools say. -/
theorem Gateway.acts_for_caller {g : Gateway} {shared : ModelBlocks} {checker : Option Checker}
    {config : EngineConfig} (hengine : g.engine = .standard shared checker config)
    {request : Http.Request} {caller : Identity} (hcaller : g.caller? request = some caller) :
    Access.Admits g.apiKeys (Rest.presented request) caller ∧
    (∀ (agent : List Char) (r : RunRequest), runRequest caller agent request = .ok r →
      ∀ (s : GatewayState) (o : Outages) (now : Timestamp) (id : String) (run : PreparedRun),
        (g.prepare s o now id r).2 = .ok run →
        ∀ (world : World) (f : ScheduleFrame) (schedule : Schedule),
          g.launch run false world = .ok (f, schedule) →
          f.ActsFor shared checker caller.userId) ∧
    (∀ (s : GatewayState) (world : World) (events : List SessionEvent),
      ∀ t ∈ ((Session.opened caller s world).after g events).task,
        t.phase.ActsFor shared checker caller.userId) ∧
    ∀ g' : Gateway, g.SameFor caller.userId g' → ∀ s s' : GatewayState,
      s.SameFor caller.userId s' →
      (∀ (o : Outages) (world : World),
        (g'.respond s' o world request).2 = (g.respond s o world request).2 ∧
          (g.respond s o world request).1.SameFor caller.userId
            (g'.respond s' o world request).1) ∧
      ∀ (world : World) (events events' : List SessionEvent),
        List.Forall₂ (SessionEvent.SameFor caller.userId) events events' →
        ((Session.opened caller s world).after g events).SameFor
          ((Session.opened caller s' world).after g' events') := by
  refine ⟨Access.admits_of_identify hcaller, ?_, ?_, ?_⟩
  · intro agent r hr s o now id run hrun world f schedule hlaunch
    have huser : run.userId = caller.userId :=
      (userId_of_prepare hrun).2.trans (userId_of_runRequest hr)
    rw [← huser]
    exact actsFor_launch hengine hlaunch
  · intro s world events
    exact Session.actsFor_after hengine events fun t ht => absurd ht (Option.not_mem_none t)
  · intro g' hg s s' hs
    refine ⟨fun o world => hg.respond hs o world hcaller, fun world events events' hevents => ?_⟩
    exact Session.SameFor.after hg hevents rfl (.mk hs .none)

/-- A mail tool that needs a credential, at a gateway that knows two users, and at one with another
credential and no agent for the second, where the tool fails for everybody but the first. -/
theorem Gateway.acts_for_caller_mailing :
    let mail : Tool := .recording "mail" (some "smtp") "sent"
    let mail' : Tool :=
      { mail with
        run := fun input context =>
          if context.userId = some "ann" then mail.run input context
          else (Tool.failing "mail" "no").run input context }
    let shared : ModelBlocks :=
      { client := Activity.askModel .worker
        model := { modelId := "small" }
        invoker :=
          { toolbox := [("mail", mail)]
            credentials := some (.stored
              [⟨"ann", ⟨"smtp", "work", []⟩⟩, ⟨"bob", ⟨"smtp", "home", []⟩⟩]) } }
    let i' : Invoker :=
      { toolbox := [("mail", mail')]
        credentials := some (.stored
          [⟨"bob", ⟨"smtp", "spare", []⟩⟩, ⟨"ann", ⟨"smtp", "work", []⟩⟩]) }
    let w : Workflow :=
      { blocks :=
          [{ id := "m", normalizedId := "m", config := .codeBlock { toolName := "mail" } }] }
    let annsAgent : Agent := { id := "a", userId := "ann", name := "A", workflow := some w }
    let bobsAgent : Agent := { id := "b", userId := "bob", name := "B", workflow := some w }
    let g : Gateway :=
      { engine := .standard shared none {}
        apiKeys := [⟨"spare", "k0", "bob"⟩, ⟨"main", "k1", "ann"⟩]
        agents := .given [("a", annsAgent), ("b", bobsAgent)] }
    let g' : Gateway :=
      { g with
        engine := .standard { shared with invoker := i' } none {}
        agents := .given [("a", annsAgent)] }
    let request : Http.Request :=
      { method := "POST"
        url := "/api/agents/a/execute"
        headers := [("authorization", "Bearer k1"), ("content-type", "application/json")]
        body := some "\x7b\"input\": \x7b\"__user_id__\": \"bob\"\x7d\x7d" }
    g.caller? request = some ⟨"main", "ann"⟩ ∧ g.SameFor "ann" g' ∧
      Access.Admits g.apiKeys (Rest.presented request) ⟨"main", "ann"⟩ ∧
      ∀ o world, (g'.respond {} o world request).2 = (g.respond {} o world request).2 := by
  intro mail mail' shared i' w annsAgent bobsAgent g g' request
  have hcaller : g.caller? request = some ⟨"main", "ann"⟩ := by decide +kernel
  have hsame : g.SameFor "ann" g' := by
    have hcredential : ∀ integration,
        i'.lookup? (some "ann") integration = shared.invoker.lookup? (some "ann") integration := by
      intro integration
      by_cases h : "smtp" = integration <;>
        simp [shared, i', Invoker.lookup?, Credentials.resolve, h]
    have htools : ∀ name, Option.Rel
        (fun tool tool' : Tool => tool.SameWithin (fun x => x.userId = some "ann" ∧
          shared.invoker.credentialFor tool (some "ann") = .ok x.credential) tool')
        (shared.invoker.toolbox.get? name) (i'.toolbox.get? name) := by
      intro name
      simp only [shared, i', Toolbox.get?, Table.get?]
      split_ifs
      · exact .some ⟨rfl, rfl, rfl, fun input context hcontext => if_pos hcontext.1⟩
      · exact .none
    have hagents : g.agents.SameFor "ann" g'.agents := by
      intro id
      simp only [Table.get?]
      split_ifs <;> rfl
    exact ⟨rfl, rfl, hagents, shared, i', none, {}, rfl, rfl, hcredential, htools⟩
  have hacts := acts_for_caller rfl hcaller
  exact ⟨hcaller, hsame, hacts.1,
    fun o world => ((hacts.2.2.2 g' hsame {} {} ⟨rfl, rfl, fun _ => rfl⟩).1 o world).1⟩
end Blockflow
