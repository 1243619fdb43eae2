import Blockflow.Proofs.Invoker
import Blockflow.Proofs.Run.Sound
import Blockflow.Proofs.Usage
import Blockflow.Proofs.Work
import Blockflow.Proofs.Workshop

/-!
# What the work on a block costs

Every turn that a model takes has a cost.  A conversation adds up the turns it hears, and hands
over the sum with its outputs; a check hands over the cost of its one turn.  Where a conversation
ends in an error there are no outputs, and nothing is handed over.

* `Reply.cost`, `costOf` — what answers have cost.
* `ModelBlock.usage_of_converse`, `ModelBlock.usage_of_talk` — a conversation adds up what it hears.
* **`Engine.billed_of_work`** — a check bills the answers to checks, an output all others.
-/

namespace Blockflow

/-! ## Cost -/

namespace Call

/-- Whether a call asks a model. -/
def isModel : Call → Bool
  | .ask _ _ => true
  | _ => false

/-- Whether a call asks the checking model. -/
def isCheck : Call → Bool
  | .ask .checker _ => true
  | _ => false

end Call

/-- What an answer has cost: a received turn what the model says, everything else nothing. -/
def Reply.cost : Reply → TokenUsage
  | ⟨.ask _ _, answer⟩ =>
    match Except.bind answer Turn.collect with
    | .ok turn => turn.usage
    | .error _ => 0
  | _ => 0

/-- What answers have cost. -/
def costOf (replies : List Reply) : TokenUsage := (replies.map Reply.cost).sum

@[simp] lemma costOf_nil : costOf [] = 0 := rfl

@[simp] lemma costOf_append (front back : List Reply) :
    costOf (front ++ back) = costOf front + costOf back := by
  rw [costOf, List.map_append, List.sum_append, costOf, costOf]

lemma Reply.cost_of_not_isModel {reply : Reply} (h : reply.call.isModel = false) :
    reply.cost = 0 := by
  obtain ⟨c, answer⟩ := reply
  cases c with
  | ask => cases h
  | wait | note | exchange | attempts | report => rfl

/-- A received turn costs what the model says. -/
lemma costOf_ask {voice : Voice} {request : ModelRequest} {stream : Except Error Stream}
    {turn : Turn} (h : stream.bind Turn.collect = .ok turn) :
    costOf [⟨.ask voice request, stream⟩] = turn.usage := by
  simp [costOf, Reply.cost, h]

/-- Who asks no model spends nothing. -/
lemma costOf_eq_zero {replies : List Reply} (h : ∀ reply ∈ replies, reply.call.isModel = false) :
    costOf replies = 0 := by
  refine List.sum_eq_zero fun cost hcost => ?_
  obtain ⟨reply, hreply, rfl⟩ := List.mem_map.mp hcost
  exact reply.cost_of_not_isModel (h reply hreply)

/-! ## Conversations -/

open Activity

/-- Tools that ask no models. -/
def Invoker.Silent (i : Invoker) : Prop :=
  ∀ name tool, i.toolbox.get? name = some tool →
    ∀ input context, (tool.run input context).Only fun c => c.isModel = false

/-- Model blocks that ask the one model for their work, with tools that ask none. -/
structure ModelBlocks.Metered (shared : ModelBlocks) : Prop where
  client : shared.client = askModel .worker
  silent : shared.invoker.Silent

namespace Invoker

variable {i : Invoker}

lemma Silent.only_invoke (h : i.Silent) (name : String) (arguments : Json) (x : Invocation) :
    (i.invoke name arguments x).Only fun c => c.isModel = false :=
  Invoker.only_invoke (h name) arguments x

end Invoker

namespace ModelBlock

variable {i : Invoker} {frame : ConversationFrame}

lemma only_answerCalls (h : i.Silent) (calls : List ToolCall) : ∀ conv,
    (answerCalls i frame calls conv).Only fun c => c.isModel = false := by
  have hinvoke : ∀ name arguments,
      (i.invoke name arguments frame.invocation).Only fun c => c.isModel = false :=
    fun _ _ => h.only_invoke _ _ _
  exact @related_answerCalls (fun p _ => p.Only fun c => c.isModel = false)
    frame.invocation.userId i i frame (congruence_only _) hinvoke calls

/-- Answering tool calls adds no usage. -/
lemma usage_of_answerCalls (calls : List ToolCall) : ∀ {conv conv' : Conversation}
    {replies : List Reply}, (answerCalls i frame calls conv).Yields replies (.ok conv') →
    conv'.usage = conv.usage := by
  induction calls with
  | nil =>
      intro conv conv' replies h
      rw [answerCalls] at h
      obtain ⟨-, heq⟩ := yields_pure_iff.mp h
      cases heq
      rfl
  | cons call rest ih =>
      intro conv conv' replies h
      rw [answerCalls] at h
      obtain ⟨front, back, answer, rfl, -, hrest⟩ := yields_bind_iff.mp h
      split at hrest
      · exact absurd hrest not_yields_ok
      · exact (ih hrest).trans rfl

/-- What a conversation comes to, if every way of going on after a turn adds up its costs. -/
lemma usage_of_converse_of_goOn {left : Nat}
    (hgoOn : ∀ {conv turn replies answer conv' left'},
      (goOn (askModel .worker) i frame conv turn left).Yields replies
        (.ok (answer, conv', left')) → conv'.usage = conv.usage + costOf replies)
    {conv conv' : Conversation} {replies : List Reply} {answer : String} {left' : Nat}
    (h : (converse (askModel .worker) i frame left conv).Yields replies
      (.ok (answer, conv', left'))) : conv'.usage = conv.usage + costOf replies := by
  rw [converse_eq] at h
  split_ifs at h
  · exact absurd h not_yields_ok
  · obtain ⟨front, back, stream, rfl, hask, hrest⟩ := yields_bind_iff.mp h
    obtain rfl := yields_askModel_iff.mp hask
    split at hrest
    · exact absurd hrest not_yields_ok
    · next turn hturn => rw [hgoOn hrest, costOf_append, costOf_ask hturn, add_assoc]

/-- **A conversation adds up what it hears**: its usage grows by the cost of the answers. -/
lemma usage_of_converse (hi : i.Silent) (left : Nat) :
    ∀ {conv conv' : Conversation} {replies : List Reply} {answer : String} {left' : Nat},
    (converse (askModel .worker) i frame left conv).Yields replies (.ok (answer, conv', left')) →
    conv'.usage = conv.usage + costOf replies := by
  induction left with
  | zero =>
      refine usage_of_converse_of_goOn fun {conv turn replies answer conv' left'} h => ?_
      rw [goOn] at h
      split_ifs at h
      · obtain ⟨rfl, heq⟩ := yields_pure_iff.mp h
        cases heq
        exact (add_zero _).symm
      · exact absurd h not_yields_ok
  | succ left ih =>
      refine usage_of_converse_of_goOn fun {conv turn replies answer conv' left'} h => ?_
      rw [goOn] at h
      split_ifs at h
      · obtain ⟨rfl, heq⟩ := yields_pure_iff.mp h
        cases heq
        exact (add_zero _).symm
      · obtain ⟨front, back, outcome, rfl, hcalls, hrest⟩ := yields_bind_iff.mp h
        have hfront : costOf front = 0 := costOf_eq_zero (hcalls.only (only_answerCalls hi _ _))
        split at hrest
        · exact absurd hrest not_yields_ok
        · rw [ih hrest, usage_of_answerCalls _ hcalls, costOf_append, hfront, zero_add]

variable {shared : ModelBlocks}

/-- The outputs of a conversation have its usage. -/
lemma usage_of_outputs {data : Option Json} {answer : String} {conv : Conversation}
    {replies : List Reply} {output : BlockOutput}
    (h : (pure (.ok (outputs data answer conv)) :
      Activity (Except Error BlockOutput)).Yields replies (.ok output)) :
    output.usage = conv.usage ∧ replies = [] := by
  obtain ⟨rfl, heq⟩ := yields_pure_iff.mp h
  cases heq
  exact ⟨rfl, rfl⟩

/-- **What a block comes to is what its conversation has cost**, a correction included. -/
lemma usage_of_talk (hm : shared.Metered)
    {c : ModelBlockConfig} {inputs : Json.Object} {replies : List Reply} {output : BlockOutput}
    (h : (talk shared c frame inputs).Yields replies (.ok output)) :
    output.usage = costOf replies := by
  rw [talk, hm.client] at h
  obtain ⟨front, back, outcome, rfl, hfirst, hrest⟩ := yields_bind_iff.mp h
  split at hrest
  · exact absurd hrest not_yields_ok
  · next answer conv left =>
      have hconv : conv.usage = costOf front :=
        (usage_of_converse hm.silent _ hfirst).trans (zero_add _)
      have hended : ∀ data, (pure (.ok (outputs data answer conv)) :
          Activity (Except Error BlockOutput)).Yields back (.ok output) →
          output.usage = costOf (front ++ back) := by
        intro data h
        obtain ⟨husage, rfl⟩ := usage_of_outputs h
        rw [husage, hconv, List.append_nil]
      split at hrest
      · exact hended _ hrest
      · split at hrest
        · exact hended _ hrest
        · -- the answer does not do, and a correction is asked for
          obtain ⟨second, last, corrected, rfl, hsecond, hlast⟩ := yields_bind_iff.mp hrest
          split at hlast
          · exact absurd hlast not_yields_ok
          · split at hlast
            · obtain ⟨husage, rfl⟩ := usage_of_outputs hlast
              rw [husage, usage_of_converse hm.silent _ hsecond, List.append_nil, costOf_append,
                ← hconv]
              rfl
            · exact absurd hlast not_yields_ok

lemma usage_of_executor (hm : shared.Metered)
    {b : Block} {inputs : Json.Object} {context : BlockContext} {replies : List Reply}
    {output : BlockOutput}
    (h : (executor shared b inputs context).Yields replies (.returned (.ok output))) :
    output.usage = costOf replies := by
  rw [executor] at h
  split at h
  · obtain ⟨front, back, result, rfl, htalk, hrest⟩ := yields_bind_iff.mp h
    obtain ⟨rfl, heq⟩ := yields_pure_iff.mp hrest
    cases heq
    rw [List.append_nil]
    exact usage_of_talk hm htalk
  · obtain ⟨-, heq⟩ := yields_pure_iff.mp h
    cases heq

end ModelBlock

/-! ## Any block -/

lemma ToolBlock.usage_of_executor {i : Invoker} (hi : i.Silent) {b : Block} {inputs : Json.Object}
    {context : BlockContext} {replies : List Reply} {output : BlockOutput}
    (h : (executor i b inputs context).Yields replies (.returned (.ok output))) :
    output.usage = costOf replies := by
  rw [executor] at h
  split at h
  · split_ifs at h
    · obtain ⟨-, heq⟩ := yields_pure_iff.mp h
      cases heq
    · obtain ⟨front, back, result, rfl, hinvoke, hrest⟩ := yields_bind_iff.mp h
      obtain ⟨rfl, heq⟩ := yields_pure_iff.mp hrest
      rw [List.append_nil, costOf_eq_zero (hinvoke.only (hi.only_invoke _ _ _))]
      cases result with
      | error e => cases heq
      | ok text =>
          cases heq
          rfl
  · obtain ⟨-, heq⟩ := yields_pure_iff.mp h
    cases heq

lemma VariableBlock.usage_of_executor {b : Block} {inputs : Json.Object} {context : BlockContext}
    {replies : List Reply} {output : BlockOutput}
    (h : (executor b inputs context).Yields replies (.returned (.ok output))) :
    output.usage = costOf replies := by
  rw [executor] at h
  obtain ⟨rfl, heq⟩ := yields_pure_iff.mp h
  split at heq
  · next c _ =>
      cases hout : outputs c inputs with
      | error e => rw [hout] at heq; cases heq
      | ok ms =>
          rw [hout] at heq
          cases heq
          rfl
  · cases heq

namespace Engine

variable {shared : ModelBlocks} {checker : Option Checker} {config : EngineConfig} {b : Block}
  {inputs : Json.Object} {context : BlockContext} {replies : List Reply}

/-- What the executor's part of the work comes to is what it has cost. -/
lemma usage_of_executed (hm : shared.Metered)
    {output : BlockOutput}
    (h : ((standard shared checker config).executed b inputs context).Yields replies
      (.ok output)) : output.usage = costOf replies := by
  have hexecutor : ∀ executor, (Executors.standard shared).find b.type = .ok executor →
      ∀ replies, (executor b inputs context).Yields replies (.returned (.ok output)) →
      output.usage = costOf replies := by
    intro executor hfind replies hexecutor
    cases htype : b.type with
    | «variable» =>
        rw [htype] at hfind
        cases hfind
        exact @VariableBlock.usage_of_executor b inputs context _ _ hexecutor
    | llmInference =>
        rw [htype] at hfind
        cases hfind
        exact ModelBlock.usage_of_executor hm hexecutor
    | codeBlock =>
        rw [htype] at hfind
        cases hfind
        exact ToolBlock.usage_of_executor hm.silent hexecutor
  rw [executed] at h
  split at h
  · exact absurd h not_yields_ok
  · next executor hfind =>
      obtain ⟨front, back, ended, rfl, hlimited, hrest⟩ := yields_bind_iff.mp h
      split at hrest
      · next ending =>
          obtain ⟨rfl, heq⟩ := yields_pure_iff.mp hrest
          rw [List.append_nil]
          refine hexecutor executor hfind front ?_
          cases ending with
          | returned result =>
              cases heq
              exact hlimited.of_timeout
          | crashed reason => cases heq
      · exact absurd hrest not_yields_ok

/-- The executor's part of the work asks no checking model. -/
lemma only_executed (hm : shared.Metered) :
    ((standard shared checker config).executed b inputs context).Only
      fun c => c.isCheck = false := by
  have hsilent : ∀ c : Call, c.isModel = false → c.isCheck = false := by
    intro c hc
    cases c with
    | ask => cases hc
    | wait | note | exchange | attempts | report => rfl
  have hmodel : ∀ request, (shared.client request).Only fun c => c.isCheck = false := by
    intro request
    rw [hm.client]
    exact ⟨rfl, fun _ _ => trivial⟩
  have hinvoker : Invoker.Related (fun p _ => p.Only fun c => c.isCheck = false) shared.invoker
      shared.invoker context.userId context.userId :=
    ⟨rfl, fun _ _ _ _ => (hm.silent.only_invoke _ _ _).mono hsilent⟩
  exact related_executed (congruence_only _) hmodel hinvoker b inputs context rfl

end Engine

/-- What a check comes to is what it has cost, and it asks only the checking model. -/
lemma Checker.usage_of_check {c : Checker} (hclient : c.client = askModel .checker) {b : Block}
    {inputs outputs : Json.Object} {about : CheckGoal} {replies : List Reply}
    {outcome : CheckOutcome} (h : (c.check b inputs outputs about).Yields replies outcome) :
    outcome.usage = costOf replies ∧ ∀ reply ∈ replies, reply.call.isCheck = true := by
  rw [check, askTurn, hclient] at h
  obtain ⟨front, back, turn, rfl, hturn, hrest⟩ := yields_bind_iff.mp h
  obtain ⟨rfl, rfl⟩ := yields_pure_iff.mp hrest
  rw [List.append_nil]
  -- one question, which is answered in time or not at all
  generalize ChatMessage.ofText .user (prompt b inputs outputs about.goal) = question at hturn
  change Yields (.askWithin (.ask .checker ⟨c.modelFor about.model, [question], [], .json⟩)
    (c.timeoutSecs * 1000) (.done none) fun _ stream =>
      .done (some (Except.bind stream Turn.collect))) front turn at hturn
  cases hturn with
  | answeredWithin t stream rest =>
      cases rest
      refine ⟨?_, by simp [Call.isCheck]⟩
      cases hcollect : Except.bind stream Turn.collect with
      | error e => simp [judge, costOf, Reply.cost, hcollect]; rfl
      | ok turn => exact (costOf_ask hcollect).symm
  | tired rest =>
      cases rest
      exact ⟨rfl, by simp⟩

/-- The answers to checks. -/
def checksIn (replies : List Reply) : List Reply := replies.filter fun reply => reply.call.isCheck

/-- The answers that are not to checks. -/
def workIn (replies : List Reply) : List Reply := replies.filter fun reply => !reply.call.isCheck

@[simp] lemma checksIn_append (front back : List Reply) :
    checksIn (front ++ back) = checksIn front ++ checksIn back := List.filter_append ..

@[simp] lemma workIn_append (front back : List Reply) :
    workIn (front ++ back) = workIn front ++ workIn back := List.filter_append ..

lemma split_of_checks {replies : List Reply} (h : ∀ reply ∈ replies, reply.call.isCheck = true) :
    checksIn replies = replies ∧ workIn replies = [] := by
  refine ⟨List.filter_eq_self.mpr h, List.filter_eq_nil_iff.mpr fun reply hreply => ?_⟩
  simp [h reply hreply]

lemma split_of_work {replies : List Reply} (h : ∀ reply ∈ replies, reply.call.isCheck = false) :
    checksIn replies = [] ∧ workIn replies = replies := by
  refine ⟨List.filter_eq_nil_iff.mpr fun reply hreply => ?_,
    List.filter_eq_self.mpr fun reply hreply => ?_⟩
  · simp [h reply hreply]
  · simp [h reply hreply]

/-- Answers are to checks or not. -/
lemma costOf_split (replies : List Reply) :
    costOf replies = costOf (checksIn replies) + costOf (workIn replies) := by
  induction replies with
  | nil => rfl
  | cons reply replies ih =>
      have hcons : costOf (reply :: replies) = costOf [reply] + costOf replies :=
        costOf_append [reply] replies
      have hchecks : checksIn (reply :: replies) = checksIn [reply] ++ checksIn replies :=
        checksIn_append [reply] replies
      have hwork : workIn (reply :: replies) = workIn [reply] ++ workIn replies :=
        workIn_append [reply] replies
      rw [hcons, hchecks, hwork, costOf_append, costOf_append, ih, add_add_add_comm]
      congr 1
      cases hreply : reply.call.isCheck with
      | true => simp [checksIn, workIn, hreply]
      | false => simp [checksIn, workIn, hreply]

namespace Engine

variable {shared : ModelBlocks} {checker : Option Checker} {config : EngineConfig}

/-- **What the work on a block bills**: its check what checking has cost, and its output, if there
is one, what everything else has cost. -/
theorem billed_of_work (hm : shared.Metered)
    (hchecker : ∀ c ∈ checker, c.client = askModel .checker) {options : ExecutionOptions}
    {b : Block} {inputs : Json.Object} {context : BlockContext} {replies : List Reply}
    {e : BlockEnd}
    (h : ((standard shared checker config).work options b inputs context).Yields replies e) :
    e.checkUsage = costOf (checksIn replies) ∧
      ∀ output, e.result = .ok output → output.usage = costOf (workIn replies) := by
  rw [work] at h
  obtain ⟨front, back, result, rfl, hexecuted, hrest⟩ := yields_bind_iff.mp h
  -- the executor asks no checking model, and the check behind it no other
  obtain ⟨hnone, hall⟩ := split_of_work (hexecuted.only (only_executed hm))
  rw [checksIn_append, workIn_append, hnone, hall]
  split at hrest
  · next output c hc =>
      have hmem : c ∈ checker := by
        rw [checkerFor] at hc
        split_ifs at hc
        exact hc
      obtain ⟨middle, last, outcome, rfl, hcheck, hlast⟩ := yields_bind_iff.mp hrest
      obtain ⟨rfl, rfl⟩ := yields_pure_iff.mp hlast
      obtain ⟨husage, hchecks⟩ := Checker.usage_of_check (hchecker c hmem) hcheck
      obtain ⟨hself, hnil⟩ := split_of_checks hchecks
      rw [List.append_nil, hself, hnil, List.append_nil]
      refine ⟨husage, ?_⟩
      rintro output' heq
      cases heq
      exact usage_of_executed hm hexecuted
  · obtain ⟨rfl, rfl⟩ := yields_pure_iff.mp hrest
    refine ⟨rfl, ?_⟩
    rintro output heq
    subst heq
    rw [show workIn [] = [] from rfl, List.append_nil]
    exact usage_of_executed hm hexecuted

/-- What a block is billed for, if it came to this end. -/
lemma usage_of_work (hm : shared.Metered)
    (hchecker : ∀ c ∈ checker, c.client = askModel .checker) {options : ExecutionOptions}
    {b : Block} {inputs : Json.Object} {context : BlockContext} {replies : List Reply}
    {e : BlockEnd}
    (h : ((standard shared checker config).work options b inputs context).Yields replies e)
    (isCancelled : Bool) :
    (e.under isCancelled).usage =
      costOf (replies.filter fun reply =>
        reply.call.isCheck || (e.under isCancelled).result.isOk) := by
  obtain ⟨hcheck, hwork⟩ := billed_of_work hm hchecker h
  -- a failure keeps what its check has cost and nothing else
  have hfailed : ∀ e' : BlockEnd, e'.checkUsage = e.checkUsage → e'.result.isOk = false →
      e'.usage = costOf (replies.filter fun reply => reply.call.isCheck || e'.result.isOk) := by
    intro e' husage hresult
    simp only [hresult, Bool.or_false]
    rw [BlockEnd.usage, husage, hcheck]
    cases hcase : e'.result with
    | error failure => exact add_zero _
    | ok output => rw [hcase] at hresult; cases hresult
  cases hresult : e.result with
  | error failure =>
      have hunder : e.under isCancelled = e := by rw [BlockEnd.under, hresult]
      rw [hunder]
      exact hfailed e rfl (by rw [hresult]; rfl)
  | ok output =>
      cases isCancelled with
      | true =>
          have hunder : e.under true = { e with result := .error .cancelled, verdict := none } := by
            rw [BlockEnd.under, hresult, if_pos rfl]
          rw [hunder]
          exact hfailed _ rfl rfl
      | false =>
          have hok : e.result.isOk = true := by rw [hresult]; rfl
          rw [BlockEnd.under_false]
          simp only [hok, Bool.or_true, List.filter_true]
          rw [BlockEnd.usage, hresult, hcheck, costOf_split replies]
          exact congrArg (costOf (checksIn replies) + ·) (hwork output hresult)

end Engine

end Blockflow
