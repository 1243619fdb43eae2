import Blockflow.Proofs.Allowance
import Blockflow.Proofs.Invocation
import Blockflow.Proofs.Rounds

/-!
# The tools that a block lists

A model block that completes lists tools in its outputs.  What is listed are the names that the
model asked for, each once and in the order in which it was first asked for, whatever came of it: a
name that was refused is listed like one whose tool was run.  A tool is run for a name exactly if
the block enables the name and a tool may be run for the block under it, and this does not change
from call to call.  So the tools that were used are those of the list that the block may use.

* `Log.requested`, `Log.uses` — the names that a model asks for, and those of the tools in use.
* `Invoker.admits?`, `Invoker.executes` — whether a tool is run for a name.
* **`Served`** — what a list of names, and what was used, come to while calls are answered.
* `ModelBlock.served_answerCalls`, `ModelBlock.served_converse`, `ModelBlock.served_talk` — the
  calls of a turn, of a conversation and of a block are served.
* **`ModelBlock.lists_requested`** — what a block lists, and which of it was used.
-/

namespace Blockflow

open Activity

/-! ## First occurrences -/

section FirstOccurrences

variable {α : Type} [BEq α] [LawfulBEq α] {a : α} {xs ys zs : List α}

/-- What is left out does not change the order of first occurrences. -/
lemma eraseDups_filter (p : α → Bool) : ∀ xs : List α,
    (xs.filter p).eraseDups = xs.eraseDups.filter p
  | [] => rfl
  | x :: xs => by
      have hrest := eraseDups_filter p (xs.filter fun y => !y == x)
      rw [List.eraseDups_cons, List.filter_cons, List.filter_cons, ← hrest, List.filter_filter]
      split_ifs with hx
      · rw [List.eraseDups_cons, List.filter_filter]
        simp only [Bool.and_comm]
      · -- what equals an element that is left out is left out too
        refine congrArg List.eraseDups (List.filter_congr fun y _ => ?_)
        by_cases hy : y = x
        · simp [hy, hx]
        · simp [hy]
termination_by xs => xs.length
decreasing_by exact Nat.lt_succ_of_le (List.length_filter_le _ _)

lemma nodup_eraseDups : ∀ xs : List α, xs.eraseDups.Nodup
  | [] => List.nodup_nil
  | x :: xs => by
      rw [List.eraseDups_cons, List.nodup_cons]
      exact ⟨by simp, nodup_eraseDups _⟩
termination_by xs => xs.length
decreasing_by exact Nat.lt_succ_of_le (List.length_filter_le _ _)

/-- First occurrences in two parts depend on those in each. -/
lemma eraseDups_append_congr {xs' ys' : List α} (hxs : xs.eraseDups = xs'.eraseDups)
    (hys : ys.eraseDups = ys'.eraseDups) : (xs ++ ys).eraseDups = (xs' ++ ys').eraseDups := by
  have hmem : ∀ y, xs.elem y = xs'.elem y := by
    intro y
    rw [Bool.eq_iff_iff, List.elem_iff, List.elem_iff, ← List.mem_eraseDups, hxs,
      List.mem_eraseDups]
  rw [List.eraseDups_append, List.eraseDups_append, hxs, List.removeAll, List.removeAll,
    eraseDups_filter, eraseDups_filter, hys]
  simp only [hmem]

lemma eraseDups_of_forall_eq (h : ∀ x ∈ xs, x = a) : (a :: xs).eraseDups = [a] := by
  have hnone : xs.filter (fun x => !x == a) = [] :=
    List.filter_eq_nil_iff.mpr fun x hx => by simp [h x hx]
  rw [List.eraseDups_cons, hnone, List.eraseDups_nil]

end FirstOccurrences

/-! ## Names in a log -/

/-- The name of the tool whose use an entry notes. -/
def LogEntry.use? : LogEntry → Option String
  | .asked (.note use) => some use.tool
  | _ => none

namespace Log

variable {voice : Voice} {front log : List LogEntry} {request : ModelRequest}
  {stream : Except Error Stream} {turn : Turn}

/-- The names of the tools that were used, in order. -/
def uses (log : List LogEntry) : List String := log.filterMap LogEntry.use?

/-- The names of the tools that a model asked for, in order. -/
def requested (voice : Voice) (log : List LogEntry) : List String :=
  (turns voice log).flatMap fun turn => turn.toolCalls.map ToolCall.name

@[simp] lemma uses_append : uses (front ++ log) = uses front ++ uses log :=
  List.filterMap_append

@[simp] lemma requested_append :
    requested voice (front ++ log) = requested voice front ++ requested voice log := by
  simp [requested]

@[simp] lemma uses_cons_note (use : ToolUse) :
    uses (.asked (.note use) :: log) = use.tool :: uses log := rfl

@[simp] lemma uses_cons_heard (reply : Reply) : uses (.heard reply :: log) = uses log := rfl

lemma mem_uses_iff {name : String} :
    name ∈ uses log ↔ ∃ use, LogEntry.asked (.note use) ∈ log ∧ use.tool = name := by
  simp only [uses, List.mem_filterMap]
  constructor
  · rintro ⟨y, hy, huse⟩
    cases y with
    | heard reply => cases huse
    | asked call =>
        cases call with
        | note use => exact ⟨use, hy, Option.some.inj huse⟩
        | wait | ask | exchange | attempts | report => cases huse
  · rintro ⟨use, hy, huse⟩
    exact ⟨_, hy, congrArg some huse⟩

lemma requested_exchanged (h : stream.bind Turn.collect = .ok turn) :
    requested voice (exchanged voice request stream) = turn.toolCalls.map ToolCall.name := by
  rw [requested, turns_exchanged_ok h, List.flatMap_singleton]

lemma requested_of_spares (h : ∀ x ∈ log, x.call.Spares voice) : requested voice log = [] := by
  rw [requested, (of_spares h).2, List.flatMap_nil]

end Log

/-! ## Whether a tool is run -/

namespace Invoker

variable {i : Invoker} {voice : Voice} {name : String} {x : Invocation} {log : List LogEntry}

/-- Whether a tool may be run for an invocation. -/
def admits? (i : Invoker) (name : String) (x : Invocation) : Bool :=
  (i.toolbox.get? name).any fun tool =>
    (integrationOf tool).all fun integration => (i.lookup? x.userId integration).isSome

lemma admits?_iff : i.admits? name x = true ↔ ∃ tool context, i.Admits name x tool context := by
  rw [admits?]
  constructor
  · intro h
    obtain ⟨tool, hget, hcredential⟩ := (Option.any_eq_true _ _).mp h
    cases hneeds : integrationOf tool with
    | none => exact ⟨_, _, .free hget hneeds⟩
    | some integration =>
        rw [hneeds, Option.all_some, Option.isSome_iff_exists] at hcredential
        obtain ⟨c, hc⟩ := hcredential
        obtain ⟨source, user, hs, hu, hc⟩ := lookup?_eq_some_iff.mp hc
        exact ⟨_, _, .entitled hget hneeds hs hu hc⟩
  · rintro ⟨tool, context, h⟩
    cases h with
    | free registered needless =>
        rw [registered, Option.any_some, needless, Option.all_none]
    | entitled registered needed present named found =>
        rw [registered, Option.any_some, needed, Option.all_some,
          lookup?_eq_some_iff.mpr ⟨_, _, present, named, found⟩, Option.isSome_some]

/-- **Whether a call of a tool is executed**: the block enables its name, and a tool may be run. -/
def executes (i : Invoker) (enabled : List String) (x : Invocation) (name : String) : Bool :=
  enabled.contains name && i.admits? name x

lemma executes_iff {enabled : List String} : i.executes enabled x name = true ↔
    name ∈ enabled ∧ ∃ tool context, i.Admits name x tool context := by
  rw [executes, Bool.and_eq_true, List.contains_iff_mem, admits?_iff]

/-- Tools that do not ask the voice, and note no uses but their own. -/
def Candid (voice : Voice) (i : Invoker) : Prop :=
  ∀ name tool, i.toolbox.get? name = some tool → ∀ input context,
    (tool.run input context).Only fun call =>
      call.Spares voice ∧ ∀ use, call = .note use → use.tool = name

lemma Candid.spares (h : i.Candid voice) : i.Spares voice := fun name tool hget input context =>
  (h name tool hget input context).mono fun _ => And.left

/-- A tool that is run is used, and no other. -/
lemma Candid.uses_invoke (h : i.Candid voice) (hnamed : i.toolbox.Named) {tool : Tool}
    {context : ToolContext} (hadmits : i.Admits name x tool context) {arguments : Json}
    {r : Option (Except Error String)} (hlog : (i.noting.invoke name arguments x).Logs log r) :
    (Log.uses log).eraseDups = [name] := by
  have hget := hadmits.credentialFor.1
  have hname : tool.name = name := hnamed name tool hget
  rcases logs_noting_invoke hadmits hlog with rfl | ⟨rest, r', rfl, hrun⟩
  · rw [Log.uses_cons_note, hname]
    exact eraseDups_of_forall_eq (List.forall_mem_nil _)
  · rw [Log.uses_cons_note, Log.uses_cons_heard, hname]
    refine eraseDups_of_forall_eq fun use huse => ?_
    obtain ⟨use, hentry, rfl⟩ := Log.mem_uses_iff.mp huse
    exact (hrun.only (h name tool hget _ _) _ hentry).2 use rfl

/-- Nothing is used where no tool may be run. -/
lemma logs_noting_invoke_of_not_admits (h : ¬ ∃ tool context, i.Admits name x tool context)
    {arguments : Json} {r : Option (Except Error String)}
    (hlog : (i.noting.invoke name arguments x).Logs log r) : log = [] := by
  rcases admits_or_denies i.noting name x with ⟨tool, context, hadmits⟩ | ⟨e, hdenies⟩
  · obtain ⟨own, hadmits, -⟩ := admits_noting_iff.mp hadmits
    exact absurd ⟨own, context, hadmits⟩ h
  · rw [invoke_of_denies hdenies] at hlog
    exact (logs_pure_iff.mp hlog).1

end Invoker

/-! ## Calls that are served -/

/-- **Calls are served.**  Where calls of these names were answered behind a log, the names are
listed behind those that were listed before, and the tools that were used are those for which tools
are run. -/
structure Served (executes : String → Bool) (names : List String) (log : List LogEntry)
    (before after : List String) : Prop where
  listed : ∀ xs : List String, before = xs.eraseDups → after = (xs ++ names).eraseDups
  used : (Log.uses log).eraseDups = (names.filter executes).eraseDups

namespace Served

variable {executes : String → Bool} {names names' : List String} {front log : List LogEntry}
  {before middle after : List String}

lemma nothing (before : List String) : Served executes [] [] before before :=
  ⟨fun xs h => by rw [h, List.append_nil], rfl⟩

lemma trans (h : Served executes names front before middle)
    (h' : Served executes names' log middle after) :
    Served executes (names ++ names') (front ++ log) before after where
  listed xs hxs := by rw [h'.listed _ (h.listed xs hxs), List.append_assoc]
  used := by
    rw [Log.uses_append, List.filter_append]
    exact eraseDups_append_congr h.used h'.used

/-- An exchange with the model uses no tool. -/
lemma exchanged {voice : Voice} (request : ModelRequest) (stream : Except Error Stream)
    (h : Served executes names log before after) :
    Served executes names (exchanged voice request stream ++ log) before after :=
  ⟨h.listed, h.used⟩

end Served

namespace ModelBlock

variable {voice : Voice} {shared : ModelBlocks} {i : Invoker} {frame : ConversationFrame}
  {enabled : List String} {log : List LogEntry}

/-- What a conversation offers are the tools that are enabled and registered. -/
lemma offers_iff (hnamed : i.toolbox.Named)
    (hframe : frame.tools = i.noting.toolbox.definitionsFor enabled) {name : String} :
    frame.Offers name ↔ i.toolbox.Allows enabled name := by
  rw [show i.noting.toolbox.definitionsFor = _ from Toolbox.definitionsFor_noting i.toolbox]
    at hframe
  rw [ConversationFrame.Offers, hframe]
  exact hnamed.definitionsFor_iff

/-- What happens about a call is what happens when its tool is invoked, if it is offered. -/
lemma logs_answerCall {call : ToolCall} {r : Except Error (String × Bool)}
    (h : (answerCall i frame call).Logs log (some r)) :
    (frame.Offers call.name ∧
      ∃ result, (i.invoke call.name call.input frame.invocation).Logs log (some result)) ∨
    (¬ frame.Offers call.name ∧ log = []) := by
  by_cases hoffered : frame.Offers call.name
  · have hany : frame.tools.any (fun t => t.name = call.name) = true := by
      obtain ⟨t, ht, hname⟩ := hoffered
      exact List.any_eq_true.mpr ⟨t, ht, decide_eq_true hname⟩
    rw [answerCall, if_pos hany, logs_bind_some_iff] at h
    obtain ⟨front, back, result, rfl, hinvoke, hrest⟩ := h
    have hback : back = [] := by
      split at hrest <;> exact (logs_pure_iff.mp hrest).1
    rw [hback, List.append_nil]
    exact .inl ⟨hoffered, result, hinvoke⟩
  · rw [answerCall_of_not_offers hoffered] at h
    exact .inr ⟨hoffered, (logs_pure_iff.mp h).1⟩

/-- **The tool of a call is used exactly if it may be.** -/
lemma uses_answerCall (hcandid : i.Candid voice) (hnamed : i.toolbox.Named)
    (hframe : frame.tools = i.noting.toolbox.definitionsFor enabled) {call : ToolCall}
    {r : Except Error (String × Bool)} (h : (answerCall i.noting frame call).Logs log (some r)) :
    (Log.uses log).eraseDups =
      ([call.name].filter (i.executes enabled frame.invocation)).eraseDups := by
  have hoffers := @offers_iff i frame enabled hnamed hframe call.name
  by_cases hexecutes : i.executes enabled frame.invocation call.name = true
  · obtain ⟨henabled, tool, context, hadmits⟩ := Invoker.executes_iff.mp hexecutes
    have hoffered : frame.Offers call.name :=
      hoffers.mpr ⟨henabled, tool, hadmits.credentialFor.1⟩
    rw [List.filter_cons_of_pos hexecutes, List.filter_nil]
    rcases logs_answerCall h with ⟨-, result, hinvoke⟩ | ⟨hnot, -⟩
    · exact hcandid.uses_invoke hnamed hadmits hinvoke
    · exact absurd hoffered hnot
  · rw [List.filter_cons_of_neg hexecutes]
    rcases logs_answerCall h with ⟨hoffered, result, hinvoke⟩ | ⟨-, rfl⟩
    · have hnone : ¬ ∃ tool context, i.Admits call.name frame.invocation tool context :=
        fun hadmits => hexecutes (Invoker.executes_iff.mpr ⟨(hoffers.mp hoffered).1, hadmits⟩)
      rw [Invoker.logs_noting_invoke_of_not_admits hnone hinvoke]
      rfl
    · rfl

/-- A name is listed once. -/
lemma toolsUsed_withAnswer (conv : Conversation) (call : ToolCall) (content : String)
    (isError : Bool) {xs : List String} (h : conv.toolsUsed = xs.eraseDups) :
    (withAnswer conv call content isError).toolsUsed = (xs ++ [call.name]).eraseDups := by
  have hlisted : call.name ∈ conv.toolsUsed ↔ call.name ∈ xs := by rw [h, List.mem_eraseDups]
  rw [withAnswer, List.eraseDups_append, ← h]
  by_cases hmem : call.name ∈ xs
  · simp [hlisted, hmem, List.removeAll]
  · simp [hlisted, hmem, List.removeAll, List.eraseDups_cons]

/-- **The calls of a turn are served**, and nothing is asked of the model meanwhile. -/
lemma served_answerCalls (hcandid : i.Candid voice) (hnamed : i.toolbox.Named)
    (hframe : frame.tools = i.noting.toolbox.definitionsFor enabled) (calls : List ToolCall) :
    ∀ {conv conv' : Conversation} {log : List LogEntry},
    (answerCalls i.noting frame calls conv).Logs log (some (.ok conv')) →
    Served (i.executes enabled frame.invocation) (calls.map ToolCall.name) log conv.toolsUsed
      conv'.toolsUsed := by
  induction calls with
  | nil =>
      intro conv conv' log h
      rw [answerCalls] at h
      obtain ⟨rfl, heq⟩ := logs_pure_iff.mp h
      cases heq
      exact .nothing _
  | cons call rest ih =>
      intro conv conv' log h
      rw [answerCalls, logs_bind_some_iff] at h
      obtain ⟨front, back, answer, rfl, hanswer, hrest⟩ := h
      split at hrest
      · cases (logs_pure_iff.mp hrest).2
      · next content isError =>
          have hcall : Served (i.executes enabled frame.invocation) [call.name] front
              conv.toolsUsed (withAnswer conv call content isError).toolsUsed :=
            ⟨fun _ => toolsUsed_withAnswer conv call content isError,
              uses_answerCall hcandid hnamed hframe hanswer⟩
          exact hcall.trans (ih hrest)

/-- The calls of a conversation are served if they are served in every way of going on. -/
lemma served_converse_of_goOn {executes : String → Bool} {left : Nat}
    (hgoOn : ∀ {conv turn back answer conv' left'},
      (goOn (askModel voice) i frame conv turn left).Logs back (some (.ok (answer, conv', left'))) →
      Served executes (turn.toolCalls.map ToolCall.name ++ Log.requested voice back) back
        conv.toolsUsed conv'.toolsUsed)
    {conv conv' : Conversation} {answer : String} {left' : Nat}
    (h : (converse (askModel voice) i frame left conv).Logs log
      (some (.ok (answer, conv', left')))) :
    Served executes (Log.requested voice log) log conv.toolsUsed conv'.toolsUsed := by
  rw [converse_eq] at h
  split_ifs at h
  · cases (logs_pure_iff.mp h).2
  · obtain ⟨front, back, stream, rfl, hask, hrest⟩ := logs_bind_some_iff.mp h
    rcases logs_askModel_iff.mp hask with ⟨-, hnone⟩ | ⟨stream, rfl, heq⟩
    · cases hnone
    · cases heq
      split at hrest
      · cases (logs_pure_iff.mp hrest).2
      · next turn hturn =>
          rw [Log.requested_append]
          have hnames := @Log.requested_exchanged voice
            ⟨frame.model, conv.messages, frame.tools, frame.format⟩ stream turn hturn
          rw [exchanged] at hnames
          rw [hnames]
          exact (hgoOn hrest).exchanged _ stream

/-- **The calls of a conversation are served.** -/
lemma served_converse (hcandid : i.Candid voice) (hnamed : i.toolbox.Named)
    (hframe : frame.tools = i.noting.toolbox.definitionsFor enabled) (left : Nat) :
    ∀ {conv conv' : Conversation} {log : List LogEntry} {answer : String} {left' : Nat},
    (converse (askModel voice) i.noting frame left conv).Logs log
      (some (.ok (answer, conv', left'))) →
    Served (i.executes enabled frame.invocation) (Log.requested voice log) log conv.toolsUsed
      conv'.toolsUsed := by
  -- a turn that asks for nothing ends the conversation
  have hended : ∀ {turn : Turn} {conv conv' : Conversation} {back : List LogEntry}
      {answer : String} {left left' : Nat}, (!turn.wantsTools) = true →
      (pure (.ok (turn.text, conv, left)) :
        Activity (Except Error (String × Conversation × Nat))).Logs back
          (some (.ok (answer, conv', left'))) →
      Served (i.executes enabled frame.invocation)
        (turn.toolCalls.map ToolCall.name ++ Log.requested voice back) back conv.toolsUsed
        conv'.toolsUsed := by
    intro turn conv conv' back answer left left' hanswer h
    obtain ⟨rfl, heq⟩ := logs_pure_iff.mp h
    cases heq
    have hcalls : turn.toolCalls = [] := by simpa [Turn.wantsTools] using hanswer
    rw [hcalls]
    exact .nothing _
  have hwork : ∀ name, frame.Offers name → ∀ arguments,
      (i.noting.invoke name arguments frame.invocation).Only (Call.Spares voice) :=
    fun name _ arguments => Invoker.only_invoke (hcandid.spares.noting name) arguments _
  induction left with
  | zero =>
      intro _ _ _ _ _ h
      refine served_converse_of_goOn (fun {conv turn back answer conv' left'} h => ?_) h
      rw [goOn] at h
      split_ifs at h with hanswer
      · exact hended hanswer h
      · cases (logs_pure_iff.mp h).2
  | succ left ih =>
      intro _ _ _ _ _ h
      refine served_converse_of_goOn (fun {conv turn back answer conv' left'} h => ?_) h
      rw [goOn] at h
      split_ifs at h with hanswer
      · exact hended hanswer h
      · obtain ⟨front, back, outcome, rfl, hcalls, hrest⟩ := logs_bind_some_iff.mp h
        split at hrest
        · cases (logs_pure_iff.mp hrest).2
        · have hquiet := Log.requested_of_spares
            (hcalls.only (ensures_answerCalls hwork turn.toolCalls _).only)
          rw [Log.requested_append, hquiet, List.nil_append]
          exact (served_answerCalls hcandid hnamed hframe _ hcalls).trans (ih hrest)

/-- **The calls of a block are served**, in a correction as well as before. -/
lemma served_talk {c : ModelBlockConfig} (hclient : shared.client = askModel voice)
    (hcandid : shared.invoker.Candid voice) (hnamed : shared.invoker.toolbox.Named)
    (hframe : frame.tools = shared.noting.invoker.toolbox.definitionsFor c.enabledTools)
    {inputs : Json.Object} {output : BlockOutput}
    (h : (talk shared.noting c frame inputs).Logs log (some (.ok output))) :
    ∃ data answer conv, output = outputs data answer conv ∧
      Served (shared.invoker.executes c.enabledTools frame.invocation) (Log.requested voice log)
        log [] conv.toolsUsed := by
  have hserved := @served_converse voice shared.invoker frame c.enabledTools hcandid hnamed hframe
  rw [talk_eq, show shared.noting.client = askModel voice from hclient] at h
  obtain ⟨front, back, outcome, rfl, hfirst, hrest⟩ := logs_bind_some_iff.mp h
  cases outcome with
  | error e => cases (logs_pure_iff.mp hrest).2
  | ok x =>
      obtain ⟨answer, conv, left⟩ := x
      have hconv := hserved _ hfirst
      dsimp only at hrest
      cases hread : c.read answer with
      | ok data =>
          rw [hread] at hrest
          obtain ⟨rfl, heq⟩ := logs_pure_iff.mp hrest
          cases heq
          rw [List.append_nil]
          exact ⟨data, answer, conv, rfl, hconv⟩
      | error issues =>
          rw [hread] at hrest
          obtain ⟨second, last, outcome, rfl, hsecond, hlast⟩ := logs_bind_some_iff.mp hrest
          obtain ⟨rfl, heq⟩ := logs_pure_iff.mp hlast
          cases outcome with
          | error e => cases heq
          | ok x =>
              obtain ⟨answer', conv', left'⟩ := x
              cases hread' : c.read answer' with
              | error issues => rw [conclude, hread'] at heq; cases heq
              | ok data =>
                  rw [conclude, hread'] at heq
                  cases heq
                  have hcorrected := hserved _ hsecond
                  rw [List.append_nil, Log.requested_append]
                  exact ⟨data, answer', conv', rfl, hconv.trans hcorrected⟩

/-- What a block says of the tools it lists. -/
lemma get?_toolsUsed (data : Option Json) (answer : String) (conv : Conversation) :
    Table.get? (outputs data answer conv).outputs "toolsUsed" =
      if conv.toolsUsed = [] then none else some (.array (conv.toolsUsed.map .text)) := by
  rw [outputs]
  cases hused : conv.toolsUsed with
  | nil => cases data <;> simp [Table.get?]
  | cons name names => cases data <;> simp [Table.get?]

/-- **What a block lists and what it used.** -/
lemma listed_executor {c : ModelBlockConfig} (hclient : shared.client = askModel voice)
    (hcandid : shared.invoker.Candid voice) (hnamed : shared.invoker.toolbox.Named) {b : Block}
    (hb : b.config = .llmInference c) {inputs : Json.Object} {context : BlockContext}
    {output : BlockOutput}
    (h : (executor shared.noting b inputs context).Logs log (some (.returned (.ok output)))) :
    let listed := (Log.requested voice log).eraseDups
    Table.get? output.outputs "toolsUsed" =
        (if listed = [] then none else some (.array (listed.map .text))) ∧
      (Log.uses log).eraseDups = listed.filter
        (shared.invoker.executes c.enabledTools ⟨context.executionId, b.id, context.userId⟩) := by
  intro listed
  simp only [executor, hb] at h
  obtain ⟨front, back, result, rfl, htalk, hrest⟩ := logs_bind_some_iff.mp h
  obtain ⟨rfl, heq⟩ := logs_pure_iff.mp hrest
  cases heq
  obtain ⟨data, answer, conv, rfl, hserved⟩ := served_talk hclient hcandid hnamed rfl htalk
  simp only [listed, List.append_nil]
  have hlisted : conv.toolsUsed = (Log.requested voice front).eraseDups := hserved.listed [] rfl
  exact ⟨hlisted ▸ get?_toolsUsed data answer conv, hserved.used.trans (eraseDups_filter _ _)⟩

end ModelBlock

lemma Ending.eq_returned_of_isOk {ending : Ending} (h : ending.result.isOk = true) :
    ∃ output, ending = .returned (.ok output) := by
  rcases ending with (e | output) | reason
  · cases h
  · exact ⟨output, rfl⟩
  · cases h

lemma ModelBlocks.named_mailroom : mailroom.invoker.toolbox.Named :=
  Toolbox.named_empty.register (.echo "mail")

lemma ModelBlocks.candid_mailroom : mailroom.invoker.Candid .worker := by
  intro name tool hget input context
  rw [mailroom, Toolbox.get?, Table.get?] at hget
  split_ifs at hget
  · cases hget
    exact trivial
  · cases hget

namespace ModelBlock

variable {voice : Voice} {shared : ModelBlocks}

open Log

/-- **A block that completes lists the names that its model asked for.**  Let every tool note what
it is used for.  Then the list is there exactly if the model asked for a tool, and it holds the
names that were asked for, in a correction as well as before, each once and in the order of their
first calls.  The tools that were used are those of the list for which a tool is run: the block
enables the name, and a tool may be run for the block under this name.  So the list is that of the
tools that were used exactly if a tool is run for every name that the model asks for. -/
theorem lists_requested (hclient : shared.client = askModel voice)
    (hcandid : shared.invoker.Candid voice) (hnamed : shared.invoker.toolbox.Named) {b : Block}
    {c : ModelBlockConfig} (hb : b.config = .llmInference c) (inputs : Json.Object)
    (context : BlockContext) :
    let executes := shared.invoker.executes c.enabledTools
      ⟨context.executionId, b.id, context.userId⟩
    ∀ log output,
      (executor shared.noting b inputs context).Logs log (some (.returned (.ok output))) →
      let listed := (requested voice log).eraseDups
      let used := (uses log).eraseDups
      Table.get? output.outputs "toolsUsed" =
          (if listed = [] then none else some (.array (listed.map .text))) ∧
        listed.Nodup ∧ used = listed.filter executes ∧
        (listed = used ↔ ∀ name ∈ requested voice log, executes name = true) := by
  intro executes log output h listed used
  obtain ⟨hlisted, hused⟩ := listed_executor hclient hcandid hnamed hb h
  refine ⟨hlisted, nodup_eraseDups _, hused, ?_⟩
  rw [show used = _ from hused, eq_comm, List.filter_eq_self]
  exact ⟨fun hall name hname => hall name (List.mem_eraseDups.mpr hname),
    fun hall name hname => hall name (List.mem_eraseDups.mp hname)⟩

/-- A model asks for mail, then for a fax, which its block enables but which is not registered, and
for mail again: it is mail that was used, and both are listed. -/
theorem lists_requested_mailing :
    let shared := ModelBlocks.mailroom
    let c : ModelBlockConfig := { enabledTools := ["mail", "fax"] }
    let b : Block := { id := "m", normalizedId := "m", config := .llmInference c }
    let run := executor shared.noting b [] ⟨"e", "m", none, false⟩
    let script : List ScriptStep :=
      [.asksFor "1" "mail" .null, .asksFor "2" "fax" .null, .asksFor "3" "mail" .null,
        .answers "Sent."]
    let log := (run.follow (scripted script) []).1
    shared.invoker.Candid .worker ∧ shared.invoker.toolbox.Named ∧
      (uses log).eraseDups = ["mail"] ∧ ∃ output,
        run.Logs log (some (.returned (.ok output))) ∧
          Table.get? output.outputs "toolsUsed" = some (.array [.text "mail", .text "fax"]) := by
  intro shared c b run script log
  have hlogs : run.Logs log _ := logs_follow run []
  have hcompleted : (run.follow (scripted script) []).2.result.isOk = true := by decide +kernel
  obtain ⟨output, hend⟩ := Ending.eq_returned_of_isOk hcompleted
  rw [hend] at hlogs
  have hrequested : requested .worker log = ["mail", "fax", "mail"] := by decide +kernel
  have hcandid := ModelBlocks.candid_mailroom
  have hnamed := ModelBlocks.named_mailroom
  obtain ⟨hlisted, -, hused, -⟩ := lists_requested rfl hcandid hnamed rfl [] _ log output hlogs
  rw [hrequested] at hlisted hused
  exact ⟨hcandid, hnamed, hused.trans (by decide +kernel), output, hlogs,
    hlisted.trans (by rw [if_neg (by decide +kernel)]; rfl)⟩

/-- So what is listed was not always used: here the block enables no tool, and its model asks for
mail. -/
theorem lists_refused :
    let b : Block := { id := "m", normalizedId := "m", config := .llmInference {} }
    let run := executor ModelBlocks.mailroom.noting b [] ⟨"e", "m", none, false⟩
    let script : List ScriptStep := [.asksFor "1" "mail" .null, .answers "Done."]
    let log := (run.follow (scripted script) []).1
    uses log = [] ∧ ∃ output, run.Logs log (some (.returned (.ok output))) ∧
      Table.get? output.outputs "toolsUsed" = some (.array [.text "mail"]) := by
  intro b run script log
  have hlogs : run.Logs log _ := logs_follow run []
  have hcompleted : (run.follow (scripted script) []).2.result.isOk = true := by decide +kernel
  obtain ⟨output, hend⟩ := Ending.eq_returned_of_isOk hcompleted
  rw [hend] at hlogs
  have hrequested : requested .worker log = ["mail"] := by decide +kernel
  have hlisted := (listed_executor rfl ModelBlocks.candid_mailroom ModelBlocks.named_mailroom rfl
    hlogs).1
  rw [hrequested] at hlisted
  exact ⟨by decide +kernel, output, hlogs, hlisted⟩

end ModelBlock

end Blockflow
