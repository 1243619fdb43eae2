import Blockflow.Proofs.Gateway.Limit

/-!
# What a request leaves behind

Before a run starts, the gateway calls its services one after another.  It asks the limiter how
many runs are left and looks the agent up; then it has the history write down that the run starts
and has the limiter count it.  Whatever turns a request away comes before the last two calls, so
that a request that is turned away leaves nothing behind, and one that is let in is counted once.
A limiter or a history that fails turns nobody away.

The calls are written down here as a tree, which any services can answer; the preparation of runs
is that tree answered by the services of a gateway.

* `ServiceCall`, `Admission` — the calls, and what follows from their answers;
  `Admission.run_fst`: what is left behind is what the calls that write make of the state.
* `Gateway.admission`, `Gateway.services` — the calls of a preparation, and who answers them;
  `Gateway.run_admission`: together they are `Gateway.prepare`.
* `Gateway.admission_cases` — what becomes of a request, whatever the services answer.
* **`Gateway.prepare_all_or_nothing`** — what a request leaves behind.
-/

namespace Blockflow

/-! ## Calls of services -/

/-- What a gateway asks of its services before a run: how many runs are left to a user, an agent,
to write down that a run starts, and to count it. -/
inductive ServiceCall where
  | remaining (userId : String)
  | agent (id userId : String)
  | record (agentId userId : String) (input : Json.Object)
  | count (userId : String)

namespace ServiceCall

/-- What a service answers, unless it fails. -/
def Reply : ServiceCall → Type
  | .remaining _ => Int
  | .agent _ _ => Agent
  | .record _ _ _ => ExecutionRecord
  | .count _ => Unit

/-- Whether a call is made for what it changes. -/
def isWrite : ServiceCall → Bool
  | .remaining _ | .agent _ _ => false
  | .record _ _ _ | .count _ => true

end ServiceCall

/-- Services that share a state; each of them may fail at any call. -/
abbrev Services (σ : Type) := (c : ServiceCall) → σ → σ × Except Error c.Reply

/-- Calls of services, each with what follows from the answer. -/
inductive Admission (α : Type) : Type where
  | done (value : α)
  | call (c : ServiceCall) (next : Except Error c.Reply → Admission α)

namespace Admission

variable {σ α : Type}

/-- The state of the services after the calls, and what comes out of them. -/
def run (v : Services σ) : Admission α → σ → σ × α
  | .done a, s => (s, a)
  | .call c next, s => (next (v c s).2).run v (v c s).1

/-- The calls that are made. -/
def calls (v : Services σ) : Admission α → σ → List ServiceCall
  | .done _, _ => []
  | .call c next, s => c :: (next (v c s).2).calls v (v c s).1

/-- The calls that are made for what they change. -/
def writes (v : Services σ) (p : Admission α) (s : σ) : List ServiceCall :=
  (p.calls v s).filter ServiceCall.isWrite

lemma writes_call_of_read {c : ServiceCall} (hc : c.isWrite = false) (v : Services σ)
    (next : Except Error c.Reply → Admission α) (s : σ) :
    writes v (.call c next) s = (next (v c s).2).writes v (v c s).1 :=
  List.filter_cons_of_neg (by simp [hc])

lemma writes_call_of_write {c : ServiceCall} (hc : c.isWrite = true) (v : Services σ)
    (next : Except Error c.Reply → Admission α) (s : σ) :
    writes v (.call c next) s = c :: (next (v c s).2).writes v (v c s).1 :=
  List.filter_cons_of_pos hc

/-- **What is left behind is what the writes make of the state**, if only they change it. -/
lemma run_fst {v : Services σ} (hreads : ∀ c s, c.isWrite = false → (v c s).1 = s)
    (p : Admission α) (s : σ) :
    (p.run v s).1 = (p.writes v s).foldl (fun s c => (v c s).1) s := by
  induction p generalizing s with
  | done a => rfl
  | call c next ih =>
      rw [run, ih]
      cases hc : c.isWrite with
      | false => rw [writes_call_of_read hc, hreads c s hc]
      | true => rw [writes_call_of_write hc, List.foldl_cons]

end Admission

/-- A record says that a run started that was asked for. -/
structure ExecutionRecord.Announces (x : ExecutionRecord) (r : RunRequest) (run : PreparedRun) :
    Prop where
  id : x.id = run.executionId
  userId : x.userId = r.userId
  agentId : x.agentId = r.agentId
  status : x.status = .running
  input : ∀ m ∈ x.input, isReserved m.1 = false

namespace Gateway

/-! ## The calls before a run -/

/-- Whether the limiter says that nothing is left. -/
def isSpent : Except Error Int → Bool
  | .ok left => left = 0
  | .error _ => false

/-- The identifier of a run: that of its record, or a new one. -/
def identifier (id : String) : Except Error ExecutionRecord → String
  | .ok record => record.id
  | .error _ => id

/-- Counts a run and lets it in. -/
def grant (r : RunRequest) (agent : Agent) (workflow : Workflow) (id : String) :
    Admission (Except Error PreparedRun) :=
  .call (.count r.userId) fun _ =>
    .done (.ok
      { executionId := id
        agentId := r.agentId
        userId := r.userId
        workflow
        input := r.input
        options :=
          { executionId := some id
            workflowGoal := goal agent
            enableBlockChecker := r.enableBlockChecker
            checkerModelId := r.checkerModelId } })

/-- **The calls of a preparation**, with a new identifier at hand. -/
def admission (g : Gateway) (id : String) (r : RunRequest) :
    Admission (Except Error PreparedRun) :=
  .call (.remaining r.userId) fun left =>
    if isSpent left then .done (.error (.limiter "daily execution limit reached"))
    else
      .call (.agent r.agentId r.userId) fun found =>
        match g.assess found with
        | .error e => .done (.error e)
        | .ok (agent, workflow) =>
          if g.keepsHistory then
            .call (.record r.agentId r.userId r.input) fun kept =>
              grant r agent workflow (identifier id kept)
          else grant r agent workflow id

/-- The services of a gateway. -/
def services (g : Gateway) (o : Outages) (now : Timestamp) (id : String) : Services GatewayState
  | .remaining userId, s =>
    (s, match o.limit with
      | some e => .error e
      | none => .ok (s.limiter.remaining userId now.day))
  | .agent agentId userId, s => (s, g.agent s o agentId userId)
  | .record agentId userId input, s =>
    match o.start with
    | some e => (s, .error e)
    | none =>
      let (store, record) := s.store.createExecution id agentId userId input now
      ({ s with store }, .ok record)
  | .count userId, s =>
    match o.count with
    | some e => (s, .error e)
    | none => ({ s with limiter := s.limiter.increment userId now.day }, .ok ())

variable {g : Gateway} {s : GatewayState} {o : Outages} {now : Timestamp} {id : String}
  {r : RunRequest} {run : PreparedRun}

/-- Asking changes nothing. -/
lemma services_fst_of_read (c : ServiceCall) (s : GatewayState) (hc : c.isWrite = false) :
    (g.services o now id c s).1 = s := by
  cases c with
  | remaining | agent => rfl
  | record | count => cases hc

lemma isSpent_services (userId : String) :
    isSpent (g.services o now id (.remaining userId) s).2 = isExhausted s o userId now.day := by
  cases hlimit : o.limit <;> simp [services, isSpent, isExhausted, hlimit]

/-- **A run is prepared by calling the services of its gateway.** -/
lemma run_admission : (g.admission id r).run (g.services o now id) s = g.prepare s o now id r := by
  rw [admission, Admission.run, isSpent_services, prepare, vet_eq_assess]
  by_cases hspent : isExhausted s o r.userId now.day = true
  · rw [if_pos hspent, if_pos hspent]
    rfl
  · rw [if_neg hspent, if_neg hspent, Admission.run]
    -- what is left depends on which of the last two services work
    dsimp only [services]
    cases g.assess (g.agent s o r.agentId r.userId) with
    | error e => rfl
    | ok found =>
        cases hkeeps : g.keepsHistory <;> cases hstart : o.start <;> cases hcount : o.count <;>
          simp [Admission.run, grant, services, recordStart, count, identifier,
            Store.createExecution, hkeeps, hstart, hcount]

/-! ## What is written -/

/-- **All that can become of a request**, whatever is answered.  It is turned away because nothing
is left or because of its agent, and nothing was written; or it is let in with a workflow of its
agent, and was counted after it was written down. -/
lemma admission_cases {σ : Type} (g : Gateway) (v : Services σ) (t : σ) (id : String)
    (r : RunRequest) :
    let p := g.admission id r
    let left := v (.remaining r.userId) t
    let found := g.assess (v (.agent r.agentId r.userId) left.1).2
    (∃ e, (p.run v t).2 = .error e ∧ p.writes v t = [] ∧
        (isSpent left.2 = true ∨ found = .error e)) ∨
      ∃ run agent, (p.run v t).2 = .ok run ∧ found = .ok (agent, run.workflow) ∧
        p.writes v t =
          (if g.keepsHistory then [.record r.agentId r.userId r.input] else []) ++
            [.count r.userId] := by
  intro p left found
  simp only [p, admission, Admission.run]
  rw [Admission.writes_call_of_read rfl]
  by_cases hspent : isSpent left.2 = true
  · rw [if_pos hspent]
    exact .inl ⟨_, rfl, rfl, .inl hspent⟩
  · rw [if_neg hspent, Admission.run, Admission.writes_call_of_read rfl]
    cases hfound : g.assess (v (.agent r.agentId r.userId) left.1).2 with
    | error e => exact .inl ⟨e, rfl, rfl, .inr hfound⟩
    | ok x =>
        refine .inr ?_
        cases g.keepsHistory with
        | false => exact ⟨_, x.1, rfl, hfound, rfl⟩
        | true => exact ⟨_, x.1, rfl, hfound, rfl⟩

/-- A service that fails, other than the agents', turns nobody away. -/
lemma prepare_of_working (h : (g.prepare s { lookup := o.lookup } now id r).2 = .ok run) :
    (g.prepare s o now id r).2 = .ok run := by
  have hvet : ∀ x, g.vet s { lookup := o.lookup } now r = .ok x → g.vet s o now r = .ok x := by
    intro x hx
    rw [vet_eq_assess] at hx ⊢
    split_ifs at hx with hspent
    have hopen : ¬ isExhausted s o r.userId now.day = true := by
      simp only [isExhausted, Option.isNone_none, Bool.true_and, decide_eq_true_eq] at hspent
      simp [isExhausted, hspent]
    rw [if_neg hopen]
    exact hx
  rw [prepare] at h ⊢
  split at h
  · cases h
  · next agent workflow hx =>
      rw [hvet _ hx]
      exact h

/-- What a run leaves behind that is let in. -/
lemma prepare_fst_of_ok (h : (g.prepare s o now id r).2 = .ok run) :
    (g.prepare s o now id r).1 =
      { store := g.recordStart s o now id r, limiter := count s o now r.userId } := by
  rw [prepare] at h ⊢
  split at h
  · cases h
  · rfl

/-- One record at most is added for a run that is let in. -/
lemma recordStart_eq (h : (g.prepare s o now id r).2 = .ok run) :
    ∃ created : List ExecutionRecord,
      created.length = (if g.keepsHistory = true ∧ o.start = none then 1 else 0) ∧
      g.recordStart s o now id r =
        { s.store with executions := s.store.executions ++ created.map .ofRecord } ∧
      ∀ x ∈ created, x.Announces r run := by
  by_cases hkept : g.keepsHistory = true ∧ o.start = none
  · refine ⟨[(s.store.createExecution id r.agentId r.userId r.input now).2], ?_, ?_, ?_⟩
    · rw [if_pos hkept]
      rfl
    · rw [recordStart, if_pos (by simp [hkept.1, hkept.2])]
      rfl
    · rintro x hx
      obtain rfl := List.mem_singleton.mp hx
      have hid : id = run.executionId := (userId_of_prepare h).1.symm
      refine ⟨hid, rfl, rfl, rfl, fun m hm => ?_⟩
      simpa using (List.mem_filter.mp hm).2
  · refine ⟨[], by rw [if_neg hkept]; rfl, ?_, by simp⟩
    rw [recordStart, if_neg (by simpa using hkept), List.map_nil, List.append_nil]

/-- **A request leaves something behind exactly if it is let in.**  One that is turned away calls
nothing that writes and leaves everything as it was; the reason lies with a limiter that works or
with the agent.  One that is let in is counted by one call, after at most one record was made, and
has a workflow that the engine can run.  Whoever is let in while the limiter and the history work
is let in when they fail. -/
theorem prepare_all_or_nothing (g : Gateway) (s : GatewayState) (o : Outages) (now : Timestamp)
    (id : String) (r : RunRequest) :
    let p := g.admission id r
    let v := g.services o now id
    let after := g.prepare s o now id r
    p.run v s = after ∧
      (∀ e, after.2 = .error e →
        p.writes v s = [] ∧ after.1 = s ∧
          (o.limit = none ∧ s.limiter.remaining r.userId now.day = 0 ∨
            g.assess (g.agent s o r.agentId r.userId) = .error e)) ∧
      (∀ run, after.2 = .ok run →
        p.writes v s =
          (if g.keepsHistory then [.record r.agentId r.userId r.input] else []) ++
            [.count r.userId] ∧
        after.1.limiter =
          (if o.count = none then s.limiter.increment r.userId now.day else s.limiter) ∧
        (∃ created : List ExecutionRecord,
          created.length = (if g.keepsHistory = true ∧ o.start = none then 1 else 0) ∧
          after.1.store =
            { s.store with executions := s.store.executions ++ created.map .ofRecord } ∧
          ∀ x ∈ created, x.Announces r run) ∧
        ∃ plan, g.engine.validate run.workflow = .ok plan) ∧
      ∀ run, (g.prepare s { lookup := o.lookup } now id r).2 = .ok run → after.2 = .ok run := by
  intro p v after
  have hrun : p.run v s = after := run_admission
  have hreason : isSpent (v (.remaining r.userId) s).2 = true →
      o.limit = none ∧ s.limiter.remaining r.userId now.day = 0 := by
    intro hspent
    rw [isSpent_services, isExhausted] at hspent
    simpa using hspent
  refine ⟨hrun, fun e he => ?_, fun run hok => ?_, fun run => prepare_of_working⟩
  · obtain ⟨e', he', hwrites, hcause⟩ | ⟨run, agent, hok, -, -⟩ := admission_cases g v s id r
    · rw [← hrun, he'] at he
      cases he
      refine ⟨hwrites, ?_, hcause.imp_left hreason⟩
      rw [← hrun, Admission.run_fst services_fst_of_read p s, hwrites, List.foldl_nil]
    · rw [← hrun, hok] at he
      cases he
  · obtain ⟨e, he, -⟩ | ⟨run', agent, hok', hfound, hwrites⟩ := admission_cases g v s id r
    · rw [← hrun, he] at hok
      cases hok
    · have hstate := prepare_fst_of_ok hok
      obtain ⟨created, hlength, hstore, hcreated⟩ := recordStart_eq hok
      refine ⟨hwrites, ?_, ⟨created, hlength, ?_, hcreated⟩, ?_⟩
      · rw [hstate, count]
        simp
      · rw [hstate, hstore]
      · rw [← hrun, hok'] at hok
        cases hok
        exact validate_of_assess hfound

/-- Ann has no run left.  While the limiter works she is turned away, and nothing is left behind;
when it fails she is let in, and it is written down. -/
theorem prepare_all_or_nothing_spent :
    let v := Visit.of "ann" 0
    let s : GatewayState := { limiter := { limit := 0 } }
    let failing : Outages := { limit := some (.limiter "down"), count := some (.limiter "down") }
    (∃ e, (modest.prepare s {} v.now v.id v.request).2 = .error e ∧
      (modest.prepare s {} v.now v.id v.request).1 = s) ∧
    ∃ run, (modest.prepare s failing v.now v.id v.request).2 = .ok run ∧
      ∃ x, (modest.prepare s failing v.now v.id v.request).1.store.executions = [.ofRecord x] ∧
        x.Announces v.request run := by
  intro v s failing
  have hrefused : (modest.prepare s {} v.now v.id v.request).2.isOk = false := by decide +kernel
  have hadmitted : (modest.prepare s failing v.now v.id v.request).2.isOk = true := by
    decide +kernel
  obtain ⟨-, hturnedAway, -, -⟩ := prepare_all_or_nothing modest s {} v.now v.id v.request
  obtain ⟨-, -, hletIn, -⟩ := prepare_all_or_nothing modest s failing v.now v.id v.request
  constructor
  · cases he : (modest.prepare s {} v.now v.id v.request).2 with
    | error e => exact ⟨e, rfl, (hturnedAway e he).2.1⟩
    | ok run =>
        rw [he] at hrefused
        cases hrefused
  · cases hrun : (modest.prepare s failing v.now v.id v.request).2 with
    | error e =>
        rw [hrun] at hadmitted
        cases hadmitted
    | ok run =>
        obtain ⟨-, -, ⟨created, hlength, hstore, hcreated⟩, -⟩ := hletIn run hrun
        obtain ⟨x, rfl⟩ := List.length_eq_one_iff.mp (hlength.trans (if_pos ⟨rfl, rfl⟩))
        exact ⟨run, rfl, x, congrArg Store.executions hstore,
          hcreated x (List.mem_singleton_self x)⟩

end Gateway

end Blockflow
