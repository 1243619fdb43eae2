import Blockflow.Proofs.Activity.Logs
import Blockflow.Proofs.Conversation

/-!
# The dialogue with a model

What a model block asks and hears has a simple form.  A conversation is a sequence of exchanges
with the model, and behind a turn that asks for tools comes the work of the tools, which asks the
model nothing.  It breaks off anywhere, or ends in an error or an answer.  A block has one
conversation, or two, if the answer of the first has to be corrected.

* `Log.questions`, `Log.turns`, `Log.toolTurns`, `Log.answers` — what a log shows of the dialogue.
* **`Dialogue`** — the logs of a conversation (`dialogue_of_converse`).
* `Dialogue.length_questions_le`, `Dialogue.answers_eq`, `Dialogue.of_lt_toolTurns`,
  `Dialogue.eachBehind_orders` — what a conversation keeps to.
* `ModelBlockConfig.read`, `Closing` — what a block makes of an answer.
* **`Talk`** — the logs of a block (`ModelBlock.talk_of_logs`).
-/

namespace Blockflow

open Activity

/-! ## What a log shows of a dialogue -/

/-- The question to a model that an entry puts. -/
def LogEntry.question? (voice : Voice) : LogEntry → Option ModelRequest
  | .asked (.ask v request) => if v = voice then some request else none
  | _ => none

/-- The turn of a model that an entry brings. -/
def LogEntry.turn? (voice : Voice) : LogEntry → Option Turn
  | .heard ⟨.ask v _, answer⟩ =>
    if v = voice then (Except.bind answer Turn.collect).toOption else none
  | _ => none

lemma LogEntry.turn?_heard_ask (voice v : Voice) (request : ModelRequest)
    (stream : Except Error Stream) :
    (LogEntry.heard ⟨.ask v request, stream⟩).turn? voice =
      if v = voice then (stream.bind Turn.collect).toOption else none := rfl

/-- A question to a model, and what comes back. -/
def exchanged (voice : Voice) (request : ModelRequest) (stream : Except Error Stream) :
    List LogEntry :=
  [.asked (.ask voice request), .heard ⟨.ask voice request, stream⟩]

/-- The voice is not asked. -/
def Call.Spares (voice : Voice) (call : Call) : Prop := ∀ request, call ≠ .ask voice request

/-- Tools that do not ask the voice. -/
def Invoker.Spares (voice : Voice) (i : Invoker) : Prop :=
  ∀ name tool, i.toolbox.get? name = some tool →
    ∀ input context, (tool.run input context).Only (Call.Spares voice)

namespace Log

variable {voice : Voice} {front log : List LogEntry} {request : ModelRequest}
  {stream : Except Error Stream} {turn : Turn} {e : Error}

/-- The questions to a model. -/
def questions (voice : Voice) (log : List LogEntry) : List ModelRequest :=
  log.filterMap (LogEntry.question? voice)

/-- The turns of a model. -/
def turns (voice : Voice) (log : List LogEntry) : List Turn :=
  log.filterMap (LogEntry.turn? voice)

/-- The turns that ask for tools. -/
def toolTurns (voice : Voice) (log : List LogEntry) : List Turn :=
  (turns voice log).filter Turn.wantsTools

/-- The texts of the turns that do not ask for tools: these are the final answers. -/
def answers (voice : Voice) (log : List LogEntry) : List String :=
  ((turns voice log).filter fun turn => !turn.wantsTools).map Turn.text

@[simp] lemma questions_nil : questions voice [] = [] := rfl

@[simp] lemma questions_append :
    questions voice (front ++ log) = questions voice front ++ questions voice log :=
  List.filterMap_append

@[simp] lemma turns_append : turns voice (front ++ log) = turns voice front ++ turns voice log :=
  List.filterMap_append

@[simp] lemma toolTurns_append :
    toolTurns voice (front ++ log) = toolTurns voice front ++ toolTurns voice log := by
  simp [toolTurns]

@[simp] lemma answers_append :
    answers voice (front ++ log) = answers voice front ++ answers voice log := by
  simp [answers]

@[simp] lemma questions_exchanged :
    questions voice (exchanged voice request stream) = [request] := by
  simp [questions, exchanged, LogEntry.question?]

lemma turns_exchanged :
    turns voice (exchanged voice request stream) = (stream.bind Turn.collect).toOption.toList := by
  rw [turns, exchanged, List.filterMap_cons_none rfl, List.filterMap_cons,
    LogEntry.turn?_heard_ask, if_pos rfl]
  cases stream.bind Turn.collect <;> rfl

lemma turns_exchanged_ok (h : stream.bind Turn.collect = .ok turn) :
    turns voice (exchanged voice request stream) = [turn] := by
  rw [turns_exchanged, h]
  rfl

lemma turns_exchanged_error (h : stream.bind Turn.collect = .error e) :
    turns voice (exchanged voice request stream) = [] := by
  rw [turns_exchanged, h]
  rfl

/-- What spares a voice asks it nothing and brings no turn of it. -/
lemma of_spares (h : ∀ x ∈ log, x.call.Spares voice) :
    questions voice log = [] ∧ turns voice log = [] := by
  refine ⟨List.filterMap_eq_nil_iff.mpr fun x hx => ?_,
    List.filterMap_eq_nil_iff.mpr fun x hx => ?_⟩
  · match x, h x hx with
    | .asked (.ask v request), hspares =>
        exact if_neg fun hv => hspares request (by rw [← hv]; rfl)
    | .asked (.wait _), _ | .asked (.note _), _ | .asked (.exchange _), _ | .asked .attempts, _
    | .asked (.report _ _), _ | .heard _, _ => rfl
  · match x, h x hx with
    | .heard ⟨.ask v request, _⟩, hspares =>
        exact if_neg fun hv => hspares request (by rw [← hv]; rfl)
    | .heard ⟨.wait _, _⟩, _ | .heard ⟨.note _, _⟩, _ | .heard ⟨.exchange _, _⟩, _
    | .heard ⟨.attempts, _⟩, _ | .heard ⟨.report _ _, _⟩, _ | .asked _, _ => rfl

/-- What a question and an answer that asks for tools show, and the work that follows. -/
structure Round (voice : Voice) (turn : Turn) (log : List LogEntry) : Prop where
  questions : (questions voice log).length = 1
  turns : turns voice log = [turn]
  toolTurns : toolTurns voice log = [turn]
  answers : answers voice log = []

lemma round_of_work (request : ModelRequest) {work : List LogEntry}
    (h : stream.bind Turn.collect = .ok turn) (htools : turn.wantsTools = true)
    (hwork : ∀ x ∈ work, x.call.Spares voice) :
    Round voice turn (exchanged voice request stream ++ work) := by
  obtain ⟨hquestions, hturns⟩ := of_spares hwork
  have hall : Log.turns voice (exchanged voice request stream ++ work) = [turn] := by
    simp [hturns, turns_exchanged_ok h]
  exact
    { questions := by simp [hquestions]
      turns := hall
      toolTurns := by simp [Log.toolTurns, hall, htools]
      answers := by simp [Log.answers, hall, htools] }

/-- **The latest turn asks for tools**, and no more than `n` turns have. -/
def Working (voice : Voice) (n : Nat) (log : List LogEntry) : Prop :=
  ∃ turn, (turns voice log).getLast? = some turn ∧ turn.wantsTools = true ∧
    (toolTurns voice log).length ≤ n

lemma Working.append {n : Nat} (h : Working voice n log) (front : List LogEntry) :
    Working voice ((toolTurns voice front).length + n) (front ++ log) := by
  obtain ⟨turn, hlast, htools, hle⟩ := h
  refine ⟨turn, ?_, htools, ?_⟩
  · rw [turns_append, List.getLast?_append, hlast]
    rfl
  · rw [toolTurns_append, List.length_append]
    exact Nat.add_le_add_left hle _

/-- Questions answered from a script without pauses, one after another; whatever else is called is
answered with as little as there is. -/
def scripted (script : List ScriptStep) (before : List LogEntry) : (call : Call) → Nat × call.Answer
  | .ask voice _ => (takeReply (script.drop ((questions voice before).length - 1))).2
  | .wait ms => (ms, ())
  | .note _ | .report _ _ => (0, ())
  | .exchange _ => (0, .unreachable)
  | .attempts => (0, [])

end Log

/-! ## Conversations -/

/-- How a conversation ends, if it does: in an error, or in an answer with so many rounds left. -/
abbrev DialogueEnd := Option (Except Error (String × Nat))

/-- The answer in which a conversation ends. -/
def DialogueEnd.answer? : DialogueEnd → Option String
  | some (.ok (answer, _)) => some answer
  | _ => none

@[simp] lemma DialogueEnd.answer?_ok (answer : String) (left : Nat) :
    DialogueEnd.answer? (some (.ok (answer, left))) = some answer := rfl

/-- **What a conversation with a limit of rounds asks and hears**, with so many rounds left. -/
inductive Dialogue (voice : Voice) (limit : Nat) : Nat → List LogEntry → DialogueEnd → Prop
  | cancelled (left : Nat) : Dialogue voice limit left [] (some (.error .cancelled))
  | waiting (left : Nat) (request : ModelRequest) :
    Dialogue voice limit left [.asked (.ask voice request)] none
  | broken (left : Nat) (request : ModelRequest) {stream : Except Error Stream} {e : Error}
    (h : stream.bind Turn.collect = .error e) :
    Dialogue voice limit left (exchanged voice request stream) (some (.error e))
  | answered (left : Nat) (request : ModelRequest) {stream : Except Error Stream} {turn : Turn}
    (h : stream.bind Turn.collect = .ok turn) (hanswer : turn.wantsTools = false) :
    Dialogue voice limit left (exchanged voice request stream) (some (.ok (turn.text, left)))
  /-- No round is left for the tools that a turn asks for. -/
  | exceeded (request : ModelRequest) {stream : Except Error Stream} {turn : Turn}
    (h : stream.bind Turn.collect = .ok turn) (htools : turn.wantsTools = true) :
    Dialogue voice limit 0 (exchanged voice request stream)
      (some (.error (.toolLoopExceeded limit)))
  /-- The conversation does not come to its next exchange. -/
  | stuck (left : Nat) (request : ModelRequest) {stream : Except Error Stream} {turn : Turn}
    {work : List LogEntry} {ending : DialogueEnd} (h : stream.bind Turn.collect = .ok turn)
    (htools : turn.wantsTools = true) (hwork : ∀ x ∈ work, x.call.Spares voice)
    (hending : ending.answer? = none) :
    Dialogue voice limit (left + 1) (exchanged voice request stream ++ work) ending
  | round {left : Nat} (request : ModelRequest) {stream : Except Error Stream} {turn : Turn}
    {work log : List LogEntry} {ending : DialogueEnd} (h : stream.bind Turn.collect = .ok turn)
    (htools : turn.wantsTools = true) (hwork : ∀ x ∈ work, x.call.Spares voice)
    (rest : Dialogue voice limit left log ending) :
    Dialogue voice limit (left + 1) (exchanged voice request stream ++ (work ++ log)) ending

namespace ModelBlock

variable {voice : Voice} {i : Invoker} {frame : ConversationFrame}

/-- The ending that shows in what a conversation comes to. -/
def endingOf (r : Option (Except Error (String × Conversation × Nat))) : DialogueEnd :=
  r.map fun result => result.map fun x => (x.1, x.2.2)

/-- The log of a conversation is a dialogue if it goes on with one after every turn. -/
lemma dialogue_of_goOn {left : Nat}
    (hgoOn : ∀ {conv request} {stream : Except Error Stream} {turn back r},
      stream.bind Turn.collect = .ok turn →
      (goOn (askModel voice) i frame conv turn left).Logs back r →
      Dialogue voice frame.maxRounds left (exchanged voice request stream ++ back) (endingOf r))
    {conv : Conversation} {log : List LogEntry}
    {r : Option (Except Error (String × Conversation × Nat))}
    (h : (converse (askModel voice) i frame left conv).Logs log r) :
    Dialogue voice frame.maxRounds left log (endingOf r) := by
  rw [converse_eq] at h
  split_ifs at h
  · obtain ⟨rfl, rfl⟩ := logs_pure_iff.mp h
    exact .cancelled left
  · rcases h.of_bind with ⟨hask, rfl⟩ | ⟨front, back, stream, rfl, hask, hrest⟩
    · rcases logs_askModel_iff.mp hask with ⟨rfl, -⟩ | ⟨stream, -, hstream⟩
      · exact .waiting left _
      · cases hstream
    · rcases logs_askModel_iff.mp hask with ⟨-, hstream⟩ | ⟨stream, rfl, hstream⟩
      · cases hstream
      · cases hstream
        split at hrest
        · next e he =>
            obtain ⟨rfl, rfl⟩ := logs_pure_iff.mp hrest
            exact .broken left _ he
        · next turn hturn => exact hgoOn hturn hrest

/-- **The log of a conversation is a dialogue**, if its tools do not ask the model. -/
theorem dialogue_of_converse
    (hinvoke : ∀ name, frame.Offers name → ∀ arguments,
      (i.invoke name arguments frame.invocation).Only (Call.Spares voice)) (left : Nat) :
    ∀ {conv : Conversation} {log : List LogEntry}
      {r : Option (Except Error (String × Conversation × Nat))},
    (converse (askModel voice) i frame left conv).Logs log r →
    Dialogue voice frame.maxRounds left log (endingOf r) := by
  induction left with
  | zero =>
      refine dialogue_of_goOn fun {conv request stream turn back r} hturn h => ?_
      rw [goOn] at h
      split_ifs at h with htools
      · obtain ⟨rfl, rfl⟩ := logs_pure_iff.mp h
        rw [List.append_nil]
        exact .answered 0 request hturn (by simpa using htools)
      · obtain ⟨rfl, rfl⟩ := logs_pure_iff.mp h
        rw [List.append_nil]
        exact .exceeded request hturn (by simpa using htools)
  | succ left ih =>
      refine dialogue_of_goOn fun {conv request stream turn back r} hturn h => ?_
      rw [goOn] at h
      split_ifs at h with htools
      · obtain ⟨rfl, rfl⟩ := logs_pure_iff.mp h
        rw [List.append_nil]
        exact .answered (left + 1) request hturn (by simpa using htools)
      · have htools : turn.wantsTools = true := by simpa using htools
        have hcalls := (ensures_answerCalls hinvoke turn.toolCalls
          { conv with messages := conv.messages ++ [turn.toMessage] }).only
        rcases h.of_bind with ⟨hwork, rfl⟩ | ⟨work, log, outcome, rfl, hwork, hrest⟩
        · exact .stuck left request hturn htools (hwork.only hcalls) rfl
        · split at hrest
          · obtain ⟨rfl, rfl⟩ := logs_pure_iff.mp hrest
            rw [List.append_nil]
            exact .stuck left request hturn htools (hwork.only hcalls) rfl
          · exact .round request hturn htools (hwork.only hcalls) (ih hrest)

end ModelBlock

/-! ## What a conversation keeps to -/

namespace Dialogue

variable {voice : Voice} {limit left : Nat} {log : List LogEntry} {ending : DialogueEnd}

open Log

/-- **A conversation puts one question more than it has rounds left, at most.** -/
lemma length_questions_le (h : Dialogue voice limit left log ending) :
    (questions voice log).length ≤ left + 1 := by
  induction h with
  | cancelled => simp
  | waiting left request => simp [questions, LogEntry.question?]
  | broken | answered | exceeded => simp
  | stuck left request h htools hwork =>
      rw [(round_of_work request h htools hwork).questions]
      omega
  | round request h htools hwork rest ih =>
      rw [← List.append_assoc, questions_append, List.length_append,
        (round_of_work request h htools hwork).questions]
      omega

/-- The only answer in a conversation is the one in which it ends. -/
lemma answers_eq (h : Dialogue voice limit left log ending) :
    answers voice log = ending.answer?.toList := by
  induction h with
  | cancelled | waiting => rfl
  | broken left request h =>
      rw [answers, turns_exchanged_error h]
      rfl
  | answered left request h hanswer =>
      rw [answers, turns_exchanged_ok h]
      simp [hanswer, DialogueEnd.answer?]
  | exceeded request h htools =>
      rw [answers, turns_exchanged_ok h]
      simp [htools, DialogueEnd.answer?]
  | stuck left request h htools hwork hending =>
      rw [(round_of_work request h htools hwork).answers, hending]
      rfl
  | round request h htools hwork rest ih =>
      rw [← List.append_assoc, answers_append, (round_of_work request h htools hwork).answers, ih]
      rfl

/-- A conversation that ends in an answer has used up one round for each turn that asked for tools,
and put one question more. -/
lemma rounds_of_answer {answer : String} {rest : Nat}
    (h : Dialogue voice limit left log (some (.ok (answer, rest)))) :
    (toolTurns voice log).length + rest = left ∧
      (questions voice log).length + rest = left + 1 := by
  generalize hending : some (Except.ok (answer, rest)) = ending at h
  induction h with
  | cancelled | waiting | broken | exceeded => cases hending
  | answered left request h hanswer =>
      cases hending
      rw [toolTurns, turns_exchanged_ok h, questions_exchanged]
      simp [hanswer, Nat.add_comm]
  | stuck left request h htools hwork hnone =>
      subst hending
      cases hnone
  | @round left request stream turn work log ending h htools hwork rest ih =>
      have hround := round_of_work request h htools hwork
      obtain ⟨hturns, hquestions⟩ := ih hending
      rw [← List.append_assoc, toolTurns_append, questions_append, List.length_append,
        List.length_append, hround.toolTurns, hround.questions, List.length_singleton]
      omega

/-- **A turn that asks for tools when no round is left ends the conversation**, and nothing is done
about it. -/
lemma of_lt_toolTurns (h : Dialogue voice limit left log ending)
    (hlt : left < (toolTurns voice log).length) :
    ending = some (.error (.toolLoopExceeded limit)) ∧
      ∃ front reply, log = front ++ [.heard reply] ∧ (toolTurns voice front).length = left := by
  induction h with
  | cancelled | waiting => exact absurd hlt (Nat.not_lt_zero _)
  | broken left request h =>
      rw [toolTurns, turns_exchanged_error h] at hlt
      simp at hlt
  | answered left request h hanswer =>
      rw [toolTurns, turns_exchanged_ok h] at hlt
      simp [hanswer] at hlt
  | exceeded request h htools => exact ⟨rfl, [_], _, rfl, rfl⟩
  | stuck left request h htools hwork =>
      rw [(round_of_work request h htools hwork).toolTurns] at hlt
      simp at hlt
  | @round left request stream turn work log ending h htools hwork rest ih =>
      have hround := round_of_work request h htools hwork
      rw [← List.append_assoc, toolTurns_append, hround.toolTurns] at hlt
      obtain ⟨hend, front, reply, rfl, hfront⟩ := ih (by simpa using hlt)
      refine ⟨hend, exchanged voice request stream ++ work ++ front, reply, by simp, ?_⟩
      rw [toolTurns_append, hround.toolTurns, List.length_append, hfront]
      simp [Nat.add_comm]

/-- What stands in front of a call in a conversation with so many rounds left: no answer, and if the
call is a tool's, a turn that asks for tools. -/
def Orders (voice : Voice) (left : Nat) (front : List LogEntry) (x : LogEntry) : Prop :=
  ∀ call, x = .asked call →
    answers voice front = [] ∧ (call.Spares voice → Working voice left front)

lemma orders_ask {request : ModelRequest} : Orders voice left [] (.asked (.ask voice request)) := by
  rintro call ⟨⟩
  exact ⟨rfl, fun hspares => absurd rfl (hspares request)⟩

lemma eachBehind_exchanged {request : ModelRequest} {stream : Except Error Stream} :
    EachBehind (Orders voice left) (exchanged voice request stream) := by
  simp only [exchanged, eachBehind_cons_iff, eachBehind_nil, and_true]
  exact ⟨orders_ask, fun call h => by cases h⟩

/-- The work behind a turn that asks for tools is in order while there is a round for it. -/
lemma eachBehind_round {request : ModelRequest} {stream : Except Error Stream} {turn : Turn}
    {work : List LogEntry} (h : stream.bind Turn.collect = .ok turn)
    (htools : turn.wantsTools = true) (hwork : ∀ x ∈ work, x.call.Spares voice) :
    EachBehind (Orders voice (left + 1)) (exchanged voice request stream ++ work) := by
  refine eachBehind_append_iff.mpr ⟨eachBehind_exchanged, ?_⟩
  rintro front x back rfl call -
  have hfront : ∀ y ∈ front, y.call.Spares voice :=
    fun y hy => hwork y (List.mem_append_left _ hy)
  have hround := round_of_work request h htools hfront
  exact ⟨hround.answers, fun _ => ⟨turn, by rw [hround.turns]; rfl, htools,
    by rw [hround.toolTurns]; simp⟩⟩

/-- **Where a call is made there is no answer yet, and tools work only in a round.** -/
lemma eachBehind_orders (h : Dialogue voice limit left log ending) :
    EachBehind (Orders voice left) log := by
  induction h with
  | cancelled => exact eachBehind_nil
  | waiting left request => simpa using orders_ask
  | broken | answered | exceeded => exact eachBehind_exchanged
  | stuck left request h htools hwork => exact eachBehind_round h htools hwork
  | @round left request stream turn work log ending h htools hwork rest ih =>
      have hround := round_of_work request h htools hwork
      rw [← List.append_assoc]
      refine eachBehind_append_iff.mpr ⟨eachBehind_round h htools hwork, ?_⟩
      rintro front x back rfl call rfl
      obtain ⟨hanswers, hworking⟩ := ih front _ back rfl call rfl
      refine ⟨by rw [answers_append, hround.answers, hanswers]; rfl, fun hspares => ?_⟩
      have happend := (hworking hspares).append (exchanged voice request stream ++ work)
      rwa [hround.toolTurns, List.length_singleton, Nat.add_comm] at happend

end Dialogue

/-! ## Blocks -/

/-- What a block reads in an answer: nothing where texts are asked for, else its value, or the
issues with it. -/
def ModelBlockConfig.read (c : ModelBlockConfig) (answer : String) :
    Except (List String) (Option Json) :=
  match c.outputFormat with
  | .text => .ok none
  | .json => (Structured.parse answer c.outputSchema).map some

lemma ModelBlockConfig.read_of_json {c : ModelBlockConfig} (hjson : c.outputFormat = .json)
    (answer : String) : c.read answer = (Structured.parse answer c.outputSchema).map some := by
  rw [read, hjson]

/-- **What a block comes to** after its last conversation. -/
inductive Closing (c : ModelBlockConfig) : DialogueEnd → Option (Except Error BlockOutput) → Prop
  | waiting : Closing c none none
  | failed (e : Error) : Closing c (some (.error e)) (some (.error e))
  | completed {answer : String} {data : Option Json} (left : Nat) (conv : Conversation)
    (h : c.read answer = .ok data) :
    Closing c (some (.ok (answer, left))) (some (.ok (ModelBlock.outputs data answer conv)))
  | rejected {answer : String} {issues : List String} (left : Nat)
    (h : c.read answer = .error issues) :
    Closing c (some (.ok (answer, left)))
      (some (.error (.structuredOutputInvalid (String.intercalate "; " issues))))

/-- **What a block asks and hears, and what it comes to.** -/
inductive Talk (voice : Voice) (c : ModelBlockConfig) (limit : Nat) :
    List LogEntry → Option (Except Error BlockOutput) → Prop
  | once {log : List LogEntry} {ending : DialogueEnd} {r : Option (Except Error BlockOutput)}
    (h : Dialogue voice limit limit log ending)
    (hread : ∀ answer ∈ ending.answer?, ∃ data, c.read answer = .ok data)
    (hclosing : Closing c ending r) : Talk voice c limit log r
  /-- The rounds that the first conversation has left are all that there are for the second. -/
  | twice {front back : List LogEntry} {answer : String} {left : Nat} {issues : List String}
    {ending : DialogueEnd} {r : Option (Except Error BlockOutput)}
    (h : Dialogue voice limit limit front (some (.ok (answer, left))))
    (hissues : c.read answer = .error issues) (rest : Dialogue voice limit left back ending)
    (hclosing : Closing c ending r) : Talk voice c limit (front ++ back) r

namespace ModelBlock

variable {voice : Voice} {shared : ModelBlocks} {frame : ConversationFrame} {c : ModelBlockConfig}
  {log : List LogEntry}

/-- What a block makes of its last conversation. -/
def conclude (c : ModelBlockConfig) :
    Except Error (String × Conversation × Nat) → Except Error BlockOutput
  | .error e => .error e
  | .ok (answer, conv, _) =>
    match c.read answer with
    | .ok data => .ok (outputs data answer conv)
    | .error issues => .error (.structuredOutputInvalid (String.intercalate "; " issues))

lemma closing_conclude (outcome : Except Error (String × Conversation × Nat)) :
    Closing c (endingOf (some outcome)) (some (conclude c outcome)) := by
  cases outcome with
  | error e => exact .failed e
  | ok x =>
      obtain ⟨answer, conv, left⟩ := x
      cases hread : c.read answer with
      | ok data =>
          rw [conclude, hread]
          exact .completed left conv hread
      | error issues =>
          rw [conclude, hread]
          exact .rejected left hread

/-- A block goes on with what it reads in the answer of its first conversation. -/
lemma talk_eq (shared : ModelBlocks) (c : ModelBlockConfig) (frame : ConversationFrame)
    (inputs : Json.Object) :
    talk shared c frame inputs =
      converse shared.client shared.invoker frame frame.maxRounds
        { messages := opening c inputs } >>= fun outcome =>
          match outcome with
          | .error e => pure (.error e)
          | .ok (answer, conv, left) =>
            match c.read answer with
            | .ok data => pure (.ok (outputs data answer conv))
            | .error issues =>
              converse shared.client shared.invoker frame left (correction conv answer issues) >>=
                fun outcome => pure (conclude c outcome) := by
  rw [talk]
  refine bind_congr fun outcome => ?_
  cases outcome with
  | error e => rfl
  | ok x =>
      obtain ⟨answer, conv, left⟩ := x
      cases hformat : c.outputFormat with
      | text => simp only [ModelBlockConfig.read, hformat]
      | json =>
          simp only [ModelBlockConfig.read_of_json hformat]
          cases Structured.parse answer c.outputSchema with
          | ok v => rfl
          | error issues =>
              refine bind_congr fun outcome => ?_
              cases outcome with
              | error e => rfl
              | ok x =>
                  obtain ⟨answer, conv, _⟩ := x
                  simp only [conclude, ModelBlockConfig.read_of_json hformat]
                  cases Structured.parse answer c.outputSchema <;> rfl

/-- **The log of a block is a dialogue, or two of them.** -/
lemma talk_of_logs_talk (hclient : shared.client = askModel voice)
    (hspares : shared.invoker.Spares voice) {inputs : Json.Object}
    {r : Option (Except Error BlockOutput)} (h : (talk shared c frame inputs).Logs log r) :
    Talk voice c frame.maxRounds log r := by
  have hinvoke : ∀ name, frame.Offers name → ∀ arguments,
      (shared.invoker.invoke name arguments frame.invocation).Only (Call.Spares voice) :=
    fun name _ arguments => Invoker.only_invoke (hspares name) arguments _
  rw [talk_eq, hclient] at h
  rcases h.of_bind with ⟨hfirst, rfl⟩ | ⟨front, back, outcome, rfl, hfirst, hrest⟩
  · refine .once (dialogue_of_converse hinvoke _ hfirst) ?_ .waiting
    rintro _ ⟨⟩
  · have hdialogue := dialogue_of_converse hinvoke _ hfirst
    cases outcome with
    | error e =>
        obtain ⟨rfl, rfl⟩ := logs_pure_iff.mp hrest
        rw [List.append_nil]
        refine .once hdialogue ?_ (.failed e)
        rintro _ ⟨⟩
    | ok x =>
        obtain ⟨answer, conv, left⟩ := x
        dsimp only at hrest
        cases hread : c.read answer with
        | ok data =>
            rw [hread] at hrest
            obtain ⟨rfl, rfl⟩ := logs_pure_iff.mp hrest
            rw [List.append_nil]
            refine .once hdialogue ?_ (.completed left conv hread)
            rintro _ ⟨⟩
            exact ⟨data, hread⟩
        | error issues =>
            rw [hread] at hrest
            rcases hrest.of_bind with ⟨hsecond, rfl⟩ | ⟨mid, back, outcome, rfl, hsecond, hrest⟩
            · exact .twice hdialogue hread (dialogue_of_converse hinvoke _ hsecond) .waiting
            · obtain ⟨rfl, rfl⟩ := logs_pure_iff.mp hrest
              rw [List.append_nil]
              exact .twice hdialogue hread (dialogue_of_converse hinvoke _ hsecond)
                (closing_conclude outcome)

/-- **The log of a block is its talk** with the model, in no more rounds than its limit. -/
theorem talk_of_logs (hclient : shared.client = askModel voice)
    (hspares : shared.invoker.Spares voice) {b : Block} (hb : b.config = .llmInference c)
    {inputs : Json.Object} {context : BlockContext} {r : Option Ending}
    (h : (executor shared b inputs context).Logs log r) :
    ∃ r', r = r'.map .returned ∧
      Talk voice c (c.maxToolRounds.getD shared.maxToolRounds) log r' := by
  simp only [executor, hb] at h
  rcases h.of_bind with ⟨htalk, rfl⟩ | ⟨front, back, result, rfl, htalk, hrest⟩
  · exact ⟨none, rfl, talk_of_logs_talk hclient hspares htalk⟩
  · obtain ⟨rfl, rfl⟩ := logs_pure_iff.mp hrest
    rw [List.append_nil]
    exact ⟨some result, rfl, talk_of_logs_talk hclient hspares htalk⟩

end ModelBlock

/-- Model blocks with a tool that sends back what is mailed. -/
def ModelBlocks.mailroom : ModelBlocks :=
  { client := askModel .worker
    invoker := { toolbox := [("mail", .echo "mail")] }
    model := { modelId := "small" } }

lemma ModelBlocks.spares_mailroom : mailroom.invoker.Spares .worker := by
  intro name tool hget input context
  rw [mailroom, Toolbox.get?, Table.get?] at hget
  split_ifs at hget
  · cases hget
    exact trivial
  · cases hget

end Blockflow
