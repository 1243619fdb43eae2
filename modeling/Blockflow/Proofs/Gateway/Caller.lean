import Blockflow.Gateway.Rest
import Blockflow.Proofs.Gateway.Preparation
import Blockflow.Proofs.Invoker
import Blockflow.Proofs.Schedule
import Blockflow.Proofs.Table
import Blockflow.Proofs.Work

/-!
# Runs on behalf of their caller

A gateway knows agents and credentials of many users, and acts for one of them at a time: the user
of the key that the caller presents.  What it holds about anybody else plays no part, and neither
does what a tool would do for anybody else, whatever the caller sends.  So two gateways that agree
on one user cannot be told apart by this user's requests.

* `Invoker.SameFor`, `Gateway.SameFor`, `GatewayState.SameFor` — agreement on one user.
-/

namespace Blockflow

/-! ## Agreement on a user -/

/-- Tools that look the same to models and do the same where a context is as it should be. -/
structure Tool.SameWithin (within : ToolContext → Prop) (tool tool' : Tool) : Prop where
  definition : tool'.definition = tool.definition
  timeoutSecs : tool'.timeoutSecs = tool.timeoutSecs
  integration : tool'.integration = tool.integration
  run : ∀ input context, within context → tool'.run input context = tool.run input context

/-- **Invokers that agree on a user**: on the user's credentials, and on what tools do for the user
when they have got the credential that they should get. -/
structure Invoker.SameFor (user : String) (i i' : Invoker) : Prop where
  credential : ∀ integration, i'.lookup? (some user) integration = i.lookup? (some user) integration
  tools : ∀ name, Option.Rel
    (fun tool tool' => tool.SameWithin (fun x =>
      x.userId = some user ∧ i.credentialFor tool (some user) = .ok x.credential) tool')
    (i.toolbox.get? name) (i'.toolbox.get? name)

/-- Where agents are looked up, as far as a user's agents go. -/
def AgentSource.SameFor (user : String) : AgentSource → AgentSource → Prop
  | .given agents, .given agents' => ∀ id,
    (Table.get? agents' id).filter (fun a => a.userId = user) =
      (Table.get? agents id).filter fun a => a.userId = user
  | .stored, .stored => True
  | _, _ => False

/-- **Gateways that agree on a user.**  Tools, credentials and agents may differ for others. -/
structure Gateway.SameFor (user : String) (g g' : Gateway) : Prop where
  apiKeys : g'.apiKeys = g.apiKeys
  keepsHistory : g'.keepsHistory = g.keepsHistory
  agents : g.agents.SameFor user g'.agents
  engine : ∃ shared i' checker config, g.engine = .standard shared checker config ∧
    g'.engine = .standard { shared with invoker := i' } checker config ∧
    shared.invoker.SameFor user i'

/-- What gateways keep, as far as a user's agents go. -/
structure GatewayState.SameFor (user : String) (s s' : GatewayState) : Prop where
  limiter : s'.limiter = s.limiter
  executions : s'.store.executions = s.store.executions
  agents : ∀ id, s'.store.getAgent id user = s.store.getAgent id user

namespace Invoker.SameFor

variable {user : String} {i i' : Invoker}

lemma credentialFor (h : SameFor user i i') {tool tool' : Tool} {within : ToolContext → Prop}
    (htool : tool.SameWithin within tool') :
    i'.credentialFor tool' (some user) = i.credentialFor tool (some user) := by
  have hname : tool'.name = tool.name := by rw [Tool.name, Tool.name, htool.definition]
  have hintegration : integrationOf tool' = integrationOf tool := by
    rw [integrationOf, integrationOf, htool.integration, hname]
  cases hcase : integrationOf tool with
  | none => rw [credentialFor_of_none hcase, credentialFor_of_none (hintegration.trans hcase)]
  | some integration =>
      rw [credentialFor_of_some hcase, credentialFor_of_some (hintegration.trans hcase),
        h.credential, hname]

/-- **For the user they invoke tools the same.** -/
lemma related (h : SameFor user i i') :
    Related (fun p p' => p = p') i i' (some user) (some user) where
  definitions := by
    funext names
    rw [Toolbox.definitionsFor, Toolbox.definitionsFor]
    refine List.filterMap_congr fun name _ => ?_
    have htool := h.tools name
    generalize i.toolbox.get? name = t, i'.toolbox.get? name = t' at htool
    cases htool with
    | none => rfl
    | some htool => exact congrArg some htool.definition
  invoke name arguments executionId blockId := by
    have htool := h.tools name
    rw [invoke, invoke]
    simp only [Toolbox.execute]
    generalize i.toolbox.get? name = t, i'.toolbox.get? name = t' at htool
    cases htool with
    | none => rfl
    | @some tool tool' htool =>
        dsimp only
        rw [h.credentialFor htool]
        cases hc : i.credentialFor tool (some user) with
        | error failure => rfl
        | ok c =>
            dsimp only
            rw [htool.run _ ⟨executionId, blockId, some user, c⟩ ⟨rfl, hc⟩, htool.timeoutSecs]

end Invoker.SameFor

/-! ## Prepared runs -/

namespace Gateway

variable {user : String} {g g' : Gateway} {s s' : GatewayState}

namespace SameFor

lemma agent (h : SameFor user g g') (hs : s.SameFor user s') (o : Outages) (id : String) :
    g'.agent s' o id user = g.agent s o id user := by
  have hagents := h.agents
  rw [Gateway.agent, Gateway.agent]
  cases o.lookup with
  | some e => rfl
  | none =>
      generalize g.agents = a, g'.agents = a' at hagents
      cases a with
      | given agents =>
          cases a' with
          | given agents' =>
              dsimp only
              rw [hagents id]
          | stored => exact hagents.elim
      | stored =>
          cases a' with
          | given agents' => exact hagents.elim
          | stored => exact hs.agents id

lemma validate (h : SameFor user g g') (w : Workflow) :
    g'.engine.validate w = g.engine.validate w := by
  obtain ⟨shared, i', checker, config, hg, hg', -⟩ := h.engine
  rw [hg, hg', Engine.validate_standard, Engine.validate_standard]

lemma config (h : SameFor user g g') : g'.engine.config = g.engine.config := by
  obtain ⟨shared, i', checker, config, hg, hg', -⟩ := h.engine
  rw [hg, hg']
  rfl

/-- **A user's request is prepared the same.** -/
lemma prepare (h : SameFor user g g') (hs : s.SameFor user s') (o : Outages) (now : Timestamp)
    (id : String) {r : RunRequest} (hr : r.userId = user) :
    (g'.prepare s' o now id r).2 = (g.prepare s o now id r).2 ∧
      (g.prepare s o now id r).1.SameFor user (g'.prepare s' o now id r).1 := by
  subst hr
  have hvet : g'.vet s' o now r = g.vet s o now r := by
    rw [vet, vet, isExhausted, isExhausted, hs.limiter, h.agent hs]
    simp only [h.validate]
  rw [Gateway.prepare, Gateway.prepare, hvet]
  cases g.vet s o now r with
  | error e => exact ⟨rfl, hs⟩
  | ok vetted =>
      refine ⟨rfl, ?_, ?_, ?_⟩
      · simp only [count, hs.limiter]
      · simp only [recordStart, h.keepsHistory]
        split_ifs
        · exact congrArg (· ++ _) hs.executions
        · exact hs.executions
      · intro agentId
        simp only [recordStart, h.keepsHistory]
        split_ifs
        · exact hs.agents agentId
        · exact hs.agents agentId

/-- **The end of a run is reported the same.** -/
lemma report (h : SameFor user g g') (hs : s.SameFor user s') (o : Outages) (now : Timestamp)
    (run : PreparedRun) (result : ExecutionResult) (durationMs : Nat) :
    (g'.report s' o now run result durationMs).2 = (g.report s o now run result durationMs).2 ∧
      (g.report s o now run result durationMs).1.SameFor user
        (g'.report s' o now run result durationMs).1 := by
  have hresponse : g'.response run result durationMs = g.response run result durationMs := by
    simp only [response, Engine.respond, h.config]
  simp only [Gateway.report, hresponse, recordFinish, h.keepsHistory]
  refine ⟨trivial, ?_⟩
  split_ifs
  · rw [Store.completeExecution, Store.completeExecution, hs.executions]
    split_ifs
    · exact ⟨hs.limiter, rfl, hs.agents⟩
    · exact hs
  · exact hs

end SameFor

/-- **Launches for a user that go the same way**: they are refused for the same reason, or they lead
to the same run with the same work. -/
def SameLaunch (user : String) :
    (launched launched' : Except Error (ScheduleFrame × Schedule)) → Prop
  | .error e, .error e' => e' = e
  | .ok (f, s), .ok (f', s') => s' = s ∧ Schedule.SameWork f f' ∧ f.userId = some user
  | _, _ => False

lemma sameWork_standard {shared : ModelBlocks} {i' : Invoker} (h : shared.invoker.SameFor user i')
    (checker : Option Checker) (config : EngineConfig) (options : ExecutionOptions)
    (setup : RunSetup) :
    Schedule.SameWork ⟨.standard shared checker config, options, setup, some user⟩
      ⟨.standard { shared with invoker := i' } checker config, options, setup, some user⟩ where
  setup := rfl
  work s i := (Engine.related_work Activity.congruence_eq (fun _ => rfl) (fun _ _ _ => rfl)
    h.related options (setup.block i) (s.run.cell i).state.inputs
    ⟨setup.executionId, (setup.block i).id, some user, false⟩ rfl).symm

/-- **A user's runs are launched the same.** -/
lemma SameFor.launch (h : SameFor user g g') {run : PreparedRun} (hrun : run.userId = user)
    (cancelled : Bool) (world : World) :
    SameLaunch user (g.launch run cancelled world) (g'.launch run cancelled world) := by
  subst hrun
  obtain ⟨shared, i', checker, config, hg, hg', hinvoker⟩ := h.engine
  rw [Gateway.launch, Gateway.launch, hg, hg', Engine.launch, Engine.launch,
    Engine.validate_standard, Engine.validate_standard, userId_inputFor]
  cases Plan.build run.workflow with
  | error e => exact rfl
  | ok plan => exact ⟨rfl, sameWork_standard hinvoker checker config _ _, rfl⟩

/-- **A user's runs are carried out the same.** -/
lemma SameFor.carryOut (h : SameFor user g g') (hs : s.SameFor user s') (o : Outages)
    (world : World) {run : PreparedRun} (hrun : run.userId = user) :
    (g'.carryOut s' o world run).2 = (g.carryOut s o world run).2 ∧
      (g.carryOut s o world run).1.SameFor user (g'.carryOut s' o world run).1 := by
  have hlaunch := h.launch hrun false world
  rw [Gateway.carryOut, Gateway.carryOut]
  generalize g.launch run false world = l, g'.launch run false world = l' at hlaunch
  cases l with
  | error e =>
      cases l' with
      | ok _ => exact hlaunch.elim
      | error e' =>
          obtain rfl : e' = e := hlaunch
          obtain ⟨hdone, hstate⟩ := h.report hs o world.now run (refused run e' world.now) 0
          exact ⟨congrArg (Prod.mk world) hdone, hstate⟩
  | ok launched =>
      cases l' with
      | error _ => exact hlaunch.elim
      | ok launched' =>
          obtain ⟨hschedule, hwork, -⟩ := hlaunch
          dsimp only
          rw [hschedule, hwork.runUntil, hwork.conclude]
          obtain ⟨hdone, hstate⟩ := h.report hs o _ run _ _
          exact ⟨congrArg (Prod.mk _) hdone, hstate⟩

/-- **A user's requests are served the same.** -/
lemma SameFor.serve (h : SameFor user g g') (hs : s.SameFor user s') (o : Outages)
    (world : World) {r : RunRequest} (hr : r.userId = user) :
    (g'.serve s' o world r).2 = (g.serve s o world r).2 ∧
      (g.serve s o world r).1.SameFor user (g'.serve s' o world r).1 := by
  obtain ⟨hanswer, hstate⟩ := h.prepare hs o world.freshId.1.now world.freshId.2 hr
  rw [Gateway.serve, Gateway.serve]
  dsimp only
  generalize hp : g.prepare s o world.freshId.1.now world.freshId.2 r = p at hanswer hstate
  generalize g'.prepare s' o world.freshId.1.now world.freshId.2 r = p' at hanswer hstate
  obtain ⟨state, answer⟩ := p
  obtain ⟨state', answer'⟩ := p'
  obtain rfl : answer' = answer := hanswer
  cases answer' with
  | error e => exact ⟨rfl, hstate⟩
  | ok run =>
      have hrun : run.userId = user := (userId_of_prepare (congrArg Prod.snd hp)).2.trans hr
      obtain ⟨hdone, hended⟩ := h.carryOut hstate o world.freshId.1 hrun
      dsimp only at hdone hended ⊢
      exact ⟨congrArg (fun x => (x.1, Except.ok x.2)) hdone, hended⟩

/-- A caller asks in no other name, whatever the body says. -/
lemma userId_of_runRequest {caller : Identity} {agent : List Char} {request : Http.Request}
    {r : RunRequest} (h : runRequest caller agent request = .ok r) : r.userId = caller.userId := by
  rw [runRequest] at h
  split at h
  · cases h
  · cases h
  · dsimp only at h
    split_ifs at h
    split at h
    · cases h
    · cases h
      rfl

/-- **A caller's requests are answered the same.** -/
lemma SameFor.respond {caller : Identity} (h : SameFor caller.userId g g')
    (hs : s.SameFor caller.userId s') (o : Outages) (world : World) {request : Http.Request}
    (hcaller : g.caller? request = some caller) :
    (g'.respond s' o world request).2 = (g.respond s o world request).2 ∧
      (g.respond s o world request).1.SameFor caller.userId
        (g'.respond s' o world request).1 := by
  have hcaller' : g'.caller? request = some caller := by
    rw [caller?, h.apiKeys]
    exact hcaller
  rw [Gateway.respond, Gateway.respond, hcaller, hcaller']
  by_cases hoptions : request.method = "OPTIONS"
  · rw [if_pos hoptions, if_pos hoptions]
    exact ⟨rfl, hs⟩
  rw [if_neg hoptions, if_neg hoptions]
  cases Rest.route? (Rest.path request.url) with
  | none => exact ⟨rfl, hs⟩
  | some route =>
      dsimp only
      by_cases hallows : (!route.allows request.method) = true
      · rw [if_pos hallows, if_pos hallows]
        exact ⟨rfl, hs⟩
      rw [if_neg hallows, if_neg hallows]
      cases route with
      | health => exact ⟨rfl, hs⟩
      | live =>
          dsimp only
          by_cases hget : request.method ≠ "GET"
          · rw [if_pos hget, if_pos hget]
            exact ⟨rfl, hs⟩
          · rw [if_neg hget, if_neg hget]
            exact ⟨rfl, hs⟩
      | execute agent =>
          dsimp only
          cases hrun : runRequest caller agent request with
          | error status => exact ⟨rfl, hs⟩
          | ok run =>
              obtain ⟨hanswer, hstate⟩ := h.serve hs o world (userId_of_runRequest hrun)
              dsimp only
              generalize g.serve s o world run = x, g'.serve s' o world run = x'
                at hanswer hstate
              obtain ⟨state, world, answer⟩ := x
              obtain ⟨state', world', answer'⟩ := x'
              obtain ⟨rfl, rfl⟩ := Prod.mk.inj hanswer
              cases answer' <;> exact ⟨rfl, hstate⟩

end Gateway

end Blockflow
