import Blockflow.Block.Standard
import Blockflow.Proofs.Activity.Alike
import Blockflow.Schedule

/-!
# The work on a block, for two users

The work on a block is put together from what a model says, from what tools come to, and from
computations that see neither the user nor a credential.  So if the model and the tools behave in
a related way for two users, the whole work does, for every relation that putting together keeps.

* `Engine.standard` — an engine with the standard executors.
* `Invoker.Related` — invokers that serve two users in a related way.
* `ModelBlock.related_converse`, `ModelBlock.related_executor`, `ToolBlock.related_executor` — the
  kinds of block.
* **`Engine.related_work`** — the work on any block.
-/

namespace Blockflow

/-- An engine with the standard executors. -/
def Engine.standard (shared : ModelBlocks) (checker : Option Checker) (config : EngineConfig) :
    Engine :=
  { executors := .standard shared, checker, config }

/-- **Invokers that serve two users in a related way**: they offer models the same tools, and what
is invoked with the same arguments from the same place is related. -/
structure Invoker.Related (R : {α : Type} → Activity α → Activity α → Prop) (i i' : Invoker)
    (user user' : Option String) : Prop where
  definitions : i'.toolbox.definitionsFor = i.toolbox.definitionsFor
  invoke : ∀ name arguments executionId blockId,
    R (i.invoke name arguments ⟨executionId, blockId, user⟩)
      (i'.invoke name arguments ⟨executionId, blockId, user'⟩)

open Activity

variable {R : {α : Type} → Activity α → Activity α → Prop} {user user' : Option String}

/-! ## Model blocks -/

namespace ModelBlock

/-- How a conversation goes on after a turn, with so many rounds of tools left. -/
def goOn (client : ModelClient) (i : Invoker) (frame : ConversationFrame) (conv : Conversation)
    (turn : Turn) : Nat → Activity (Except Error (String × Conversation × Nat))
  | 0 =>
    if !turn.wantsTools then pure (.ok (turn.text, conv, 0))
    else pure (.error (.toolLoopExceeded frame.maxRounds))
  | left + 1 =>
    if !turn.wantsTools then pure (.ok (turn.text, conv, left + 1))
    else do
      match ← answerCalls i frame turn.toolCalls
          { conv with messages := conv.messages ++ [turn.toMessage] } with
      | .error e => return .error e
      | .ok conv => converse client i frame left conv

/-- A conversation asks the model and goes on with its turn. -/
lemma converse_eq (client : ModelClient) (i : Invoker) (frame : ConversationFrame) (left : Nat)
    (conv : Conversation) :
    converse client i frame left conv =
      if frame.cancelled then pure (.error .cancelled)
      else
        client ⟨frame.model, conv.messages, frame.tools, frame.format⟩ >>= fun stream =>
          match stream.bind Turn.collect with
          | .error e => pure (.error e)
          | .ok turn =>
            goOn client i frame { conv with usage := conv.usage + turn.usage } turn left := by
  cases left <;> rw [converse] <;> rfl

section Turns

variable {i i' : Invoker} {frame : ConversationFrame}

lemma related_answerCall (hR : Congruence @R)
    (hinvoke : ∀ name arguments,
      R (i.invoke name arguments frame.invocation) (i'.invoke name arguments
        { frame.invocation with userId := user' }))
    (call : ToolCall) :
    R (answerCall i frame call)
      (answerCall i' { frame with invocation := { frame.invocation with userId := user' } }
        call) := by
  rw [answerCall, answerCall]
  split_ifs
  · refine hR.bind (hinvoke _ _) fun result => ?_
    split <;> exact hR.done _
  · exact hR.done _

lemma related_answerCalls (hR : Congruence @R)
    (hinvoke : ∀ name arguments,
      R (i.invoke name arguments frame.invocation) (i'.invoke name arguments
        { frame.invocation with userId := user' }))
    (calls : List ToolCall) : ∀ conv,
    R (answerCalls i frame calls conv)
      (answerCalls i' { frame with invocation := { frame.invocation with userId := user' } }
        calls conv) := by
  induction calls with
  | nil => exact fun conv => hR.done _
  | cons call rest ih =>
      intro conv
      rw [answerCalls, answerCalls]
      refine hR.bind (related_answerCall hR hinvoke call) fun answer => ?_
      split
      · exact hR.done _
      · exact ih _

/-- Conversations are related if they go on in a related way after every turn. -/
lemma related_converse_of_goOn (hR : Congruence @R) {client : ModelClient}
    (hclient : ∀ request, R (client request) (client request)) {inv : Invocation} {left : Nat}
    (h : ∀ conv turn, R (goOn client i frame conv turn left)
      (goOn client i' { frame with invocation := inv } conv turn left)) (conv : Conversation) :
    R (converse client i frame left conv)
      (converse client i' { frame with invocation := inv } left conv) := by
  rw [converse_eq, converse_eq]
  split_ifs
  · exact hR.done _
  · refine hR.bind (hclient _) fun stream => ?_
    split
    · exact hR.done _
    · exact h _ _

/-- **Conversations are related**: they put the same questions and get related answers. -/
lemma related_converse (hR : Congruence @R) {client : ModelClient}
    (hclient : ∀ request, R (client request) (client request))
    (hinvoke : ∀ name arguments,
      R (i.invoke name arguments frame.invocation) (i'.invoke name arguments
        { frame.invocation with userId := user' }))
    (left : Nat) : ∀ conv,
    R (converse client i frame left conv)
      (converse client i' { frame with invocation := { frame.invocation with userId := user' } }
        left conv) := by
  induction left with
  | zero =>
      refine related_converse_of_goOn hR hclient fun conv turn => ?_
      rw [goOn, goOn]
      split_ifs <;> exact hR.done _
  | succ left ih =>
      refine related_converse_of_goOn hR hclient fun conv turn => ?_
      rw [goOn, goOn]
      split_ifs
      · exact hR.done _
      · refine hR.bind (related_answerCalls hR hinvoke _ _) fun outcome => ?_
        split
        · exact hR.done _
        · exact ih _

end Turns

variable {shared : ModelBlocks} {i' : Invoker}

lemma related_talk (hR : Congruence @R)
    (hclient : ∀ request, R (shared.client request) (shared.client request))
    {frame : ConversationFrame}
    (hinvoke : ∀ name arguments,
      R (shared.invoker.invoke name arguments frame.invocation) (i'.invoke name arguments
        { frame.invocation with userId := user' }))
    (c : ModelBlockConfig) (inputs : Json.Object) :
    R (talk shared c frame inputs)
      (talk { shared with invoker := i' } c
        { frame with invocation := { frame.invocation with userId := user' } } inputs) := by
  rw [talk, talk]
  refine hR.bind (related_converse hR hclient hinvoke _ _) fun outcome => ?_
  split
  · exact hR.done _
  · dsimp only
    split
    · exact hR.done _
    · split
      · exact hR.done _
      · refine hR.bind (related_converse hR hclient hinvoke _ _) fun corrected => ?_
        split
        · exact hR.done _
        · split <;> exact hR.done _

lemma related_executor (hR : Congruence @R)
    (hclient : ∀ request, R (shared.client request) (shared.client request))
    (hinvoker : Invoker.Related @R shared.invoker i' user user') (b : Block)
    (inputs : Json.Object) (context : BlockContext) (huser : context.userId = user) :
    R (executor shared b inputs context)
      (executor { shared with invoker := i' } b inputs { context with userId := user' }) := by
  subst huser
  rw [executor, executor]
  split
  · next c _ =>
      simp only [hinvoker.definitions]
      exact hR.bind (related_talk hR hclient (fun name arguments => hinvoker.invoke _ _ _ _) c
        inputs) fun _ => hR.done _
  · exact hR.done _

end ModelBlock

/-! ## Tool blocks -/

lemma ToolBlock.related_executor (hR : Congruence @R) {i i' : Invoker}
    (hinvoker : Invoker.Related @R i i' user user') (b : Block) (inputs : Json.Object)
    (context : BlockContext) (huser : context.userId = user) :
    R (executor i b inputs context) (executor i' b inputs { context with userId := user' }) := by
  subst huser
  rw [executor, executor]
  split
  · split_ifs
    · exact hR.done _
    · exact hR.bind (hinvoker.invoke _ _ _ _) fun _ => hR.done _
  · exact hR.done _

/-! ## Any block -/

namespace Engine

variable {shared : ModelBlocks} {i' : Invoker} {checker : Option Checker} {config : EngineConfig}

/-- The standard executors can run every workflow that has a plan. -/
lemma validate_standard (w : Workflow) :
    (standard shared checker config).validate w = Plan.build w := by
  have hfind : ∀ type, ∃ x, (Executors.standard shared).find type = .ok x := by
    intro type
    cases type <;> exact ⟨_, rfl⟩
  have hall : ∀ blocks : List Block, (forIn blocks PUnit.unit fun b _ => do
      discard ((Executors.standard shared).find b.type)
      pure (ForInStep.yield PUnit.unit)) = (pure PUnit.unit : Except Error PUnit) := by
    intro blocks
    induction blocks with
    | nil => rfl
    | cons b blocks ih =>
        obtain ⟨x, hx⟩ := hfind b.type
        rw [List.forIn_cons, hx]
        exact ih
  rw [validate]
  simp only [standard, hall]
  exact bind_pure _

/-- Every kind of block has an executor, and the two for a kind are related. -/
lemma related_find (hR : Congruence @R)
    (hclient : ∀ request, R (shared.client request) (shared.client request))
    (hinvoker : Invoker.Related @R shared.invoker i' user user') (type : BlockType) :
    ∃ x x', (Executors.standard shared).find type = .ok x ∧
      (Executors.standard { shared with invoker := i' }).find type = .ok x' ∧
      ∀ b inputs (context : BlockContext), context.userId = user →
        R (x b inputs context) (x' b inputs { context with userId := user' }) := by
  cases type with
  | «variable» => exact ⟨_, _, rfl, rfl, fun b inputs context _ => hR.done _⟩
  | llmInference => exact ⟨_, _, rfl, rfl, ModelBlock.related_executor hR hclient hinvoker⟩
  | codeBlock => exact ⟨_, _, rfl, rfl, ToolBlock.related_executor hR hinvoker⟩

lemma related_executed (hR : Congruence @R)
    (hclient : ∀ request, R (shared.client request) (shared.client request))
    (hinvoker : Invoker.Related @R shared.invoker i' user user') (b : Block)
    (inputs : Json.Object) (context : BlockContext) (huser : context.userId = user) :
    R ((standard shared checker config).executed b inputs context)
      ((standard { shared with invoker := i' } checker config).executed b inputs
        { context with userId := user' }) := by
  obtain ⟨x, x', hx, hx', hrelated⟩ := related_find hR hclient hinvoker b.type
  simp only [executed, standard, hx, hx']
  refine hR.bind (hR.timeout _ (hrelated b inputs context huser)) fun ending => ?_
  split <;> exact hR.done _

lemma related_check (hR : Congruence @R) {c : Checker}
    (hclient : ∀ request, R (c.client request) (c.client request)) (b : Block)
    (inputs outputs : Json.Object) (about : CheckGoal) :
    R (c.check b inputs outputs about) (c.check b inputs outputs about) :=
  hR.bind (hR.timeout _ (hR.bind (hclient _) fun _ => hR.done _)) fun _ => hR.done _

/-- **The work on a block is related**, if models and tools behave in a related way. -/
theorem related_work (hR : Congruence @R)
    (hclient : ∀ request, R (shared.client request) (shared.client request))
    (hchecker : ∀ c ∈ checker, ∀ request, R (c.client request) (c.client request))
    (hinvoker : Invoker.Related @R shared.invoker i' user user') (options : ExecutionOptions)
    (b : Block) (inputs : Json.Object) (context : BlockContext) (huser : context.userId = user) :
    R ((standard shared checker config).work options b inputs context)
      ((standard { shared with invoker := i' } checker config).work options b inputs
        { context with userId := user' }) := by
  rw [work, work]
  refine hR.bind (related_executed hR hclient hinvoker b inputs context huser) fun result => ?_
  simp only [show (standard { shared with invoker := i' } checker config).checkerFor options b =
    (standard shared checker config).checkerFor options b from rfl]
  split
  · next output c hc =>
      have hmem : c ∈ checker := by
        rw [checkerFor] at hc
        split_ifs at hc
        exact hc
      exact hR.bind (related_check hR (hchecker c hmem) b inputs _ _) fun _ => hR.done _
  · exact hR.done _

end Engine

end Blockflow
