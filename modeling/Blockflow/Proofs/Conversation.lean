import Blockflow.Proofs.Invoker
import Blockflow.Proofs.Work
import Blockflow.Provider.Wire
import Blockflow.Rehearsal

/-!
# Conversations in good order

A provider takes a conversation only if every tool call in it is answered where it was made: behind
the message with the calls come the answers, one for each call and in the order of the calls, and
nowhere else is there an answer.  The conversation of a model block is built up by turns, refusals,
failures of tools and a request for correction.  Whatever the model says, it stays in this order,
and what the converter makes of it is in this order too.

* `ToolCall.IsAnsweredBy`, **`Orderly`** — conversations in good order; tools that are not offered
  are refused in them.
* `ModelBlock.ensures_answerCalls`, `ModelBlock.ensures_converse`, **`ModelBlock.only_executor`** —
  a block goes on in good order.
* `WireMessage.Answered`, `Orderly.answered` — the order of what goes out.
* **`ModelBlock.questions_answered`** — every question of a block.
-/

namespace Blockflow

/-! ## Good order -/

/-- A message answers a tool call; a call of a tool that is not offered is refused with an error. -/
def ToolCall.IsAnsweredBy (offered : String → Prop) (call : ToolCall) (m : ChatMessage) : Prop :=
  ∃ content isError, m = ChatMessage.ofToolResult call.id content isError ∧
    (¬ offered call.name → content = ModelBlock.refusal call.name ∧ isError = true)

/-- **A conversation in good order**: texts, and turns with the answers to their tool calls right
behind them, one for each call and in the order of the calls. -/
inductive Orderly (offered : String → Prop) : List ChatMessage → Prop
  | empty : Orderly offered []
  | said {messages : List ChatMessage} (before : Orderly offered messages) (role : Role)
      (s : String) : Orderly offered (messages ++ [.ofText role s])
  | settled {messages answers : List ChatMessage} (before : Orderly offered messages) (turn : Turn)
      (h : List.Forall₂ (ToolCall.IsAnsweredBy offered) turn.toolCalls answers) :
      Orderly offered (messages ++ turn.toMessage :: answers)

/-! ## What a block does -/

open Activity

/-- The tools that a conversation offers. -/
def ConversationFrame.Offers (frame : ConversationFrame) (name : String) : Prop :=
  ∃ t ∈ frame.tools, t.name = name

namespace ModelBlock

variable {C : Call → Prop} {client : ModelClient} {i : Invoker} {frame : ConversationFrame}

/-- A call of a tool that is not offered is answered at once. -/
lemma answerCall_of_not_offers {call : ToolCall} (h : ¬ frame.Offers call.name) :
    answerCall i frame call = pure (.ok (refusal call.name, true)) := by
  rw [answerCall, if_neg]
  rw [List.any_eq_true]
  rintro ⟨t, ht, hname⟩
  exact h ⟨t, ht, of_decide_eq_true hname⟩

/-- A call is answered, and refused if its tool is not offered; only the tools that are offered are
invoked. -/
lemma ensures_answerCall
    (hinvoke : ∀ name, frame.Offers name → ∀ arguments,
      (i.invoke name arguments frame.invocation).Only C) (call : ToolCall) :
    (answerCall i frame call).Ensures C fun r => ∀ content isError, r = .ok (content, isError) →
      call.IsAnsweredBy frame.Offers (.ofToolResult call.id content isError) := by
  by_cases hoffers : frame.Offers call.name
  · have hanswered : ∀ content isError,
        call.IsAnsweredBy frame.Offers (.ofToolResult call.id content isError) :=
      fun content isError => ⟨content, isError, rfl, fun h => absurd hoffers h⟩
    rw [answerCall]
    split_ifs
    · refine (hinvoke _ hoffers _).ensures.bind fun result _ => ?_
      split <;> exact fun content isError _ => hanswered content isError
    · exact fun content isError _ => hanswered content isError
  · rw [answerCall_of_not_offers hoffers]
    rintro content isError heq
    cases heq
    exact ⟨_, _, rfl, fun _ => ⟨rfl, rfl⟩⟩

/-- The tool calls of a turn are answered one after another. -/
lemma ensures_answerCalls
    (hinvoke : ∀ name, frame.Offers name → ∀ arguments,
      (i.invoke name arguments frame.invocation).Only C) (calls : List ToolCall) : ∀ conv,
    (answerCalls i frame calls conv).Ensures C fun r => ∀ conv', r = .ok conv' →
      ∃ answers, conv'.messages = conv.messages ++ answers ∧
        List.Forall₂ (ToolCall.IsAnsweredBy frame.Offers) calls answers := by
  induction calls with
  | nil =>
      rintro conv conv' heq
      cases heq
      exact ⟨[], (List.append_nil _).symm, .nil⟩
  | cons call rest ih =>
      intro conv
      rw [answerCalls]
      refine (ensures_answerCall hinvoke call).bind fun answer hanswer => ?_
      split
      · intro conv' hconv'
        cases hconv'
      · next content isError =>
          refine (ih _).mono fun r hr conv' hconv' => ?_
          obtain ⟨answers, hmessages, hanswers⟩ := hr conv' hconv'
          refine ⟨_ :: answers, ?_, .cons (hanswer content isError rfl) hanswers⟩
          rw [hmessages, withAnswer, List.append_assoc]
          rfl

/-- A conversation stays in good order if every way of going on after a turn keeps it so. -/
lemma ensures_converse_of_goOn
    (hclient : ∀ messages, Orderly frame.Offers messages →
      (client ⟨frame.model, messages, frame.tools, frame.format⟩).Only C) {left : Nat}
    (hgoOn : ∀ conv turn, Orderly frame.Offers conv.messages →
      (goOn client i frame conv turn left).Ensures C fun r => ∀ answer conv' left',
        r = .ok (answer, conv', left') → Orderly frame.Offers conv'.messages)
    (conv : Conversation) (hconv : Orderly frame.Offers conv.messages) :
    (converse client i frame left conv).Ensures C fun r => ∀ answer conv' left',
      r = .ok (answer, conv', left') → Orderly frame.Offers conv'.messages := by
  rw [converse_eq]
  split_ifs
  · intro answer conv' left' heq
    cases heq
  · refine (hclient _ hconv).ensures.bind fun stream _ => ?_
    split
    · intro answer conv' left' heq
      cases heq
    · exact hgoOn _ _ hconv

/-- **A conversation stays in good order**, whatever the model says. -/
lemma ensures_converse
    (hclient : ∀ messages, Orderly frame.Offers messages →
      (client ⟨frame.model, messages, frame.tools, frame.format⟩).Only C)
    (hinvoke : ∀ name, frame.Offers name → ∀ arguments,
      (i.invoke name arguments frame.invocation).Only C) (left : Nat) :
    ∀ conv : Conversation, Orderly frame.Offers conv.messages →
    (converse client i frame left conv).Ensures C fun r => ∀ answer conv' left',
      r = .ok (answer, conv', left') → Orderly frame.Offers conv'.messages := by
  -- an answer without tool calls leaves the conversation as it is
  have hended : ∀ {text : String} {conv : Conversation} {left : Nat},
      Orderly frame.Offers conv.messages →
      Ensures C (fun r : Except Error (String × Conversation × Nat) => ∀ answer conv' left',
        r = .ok (answer, conv', left') → Orderly frame.Offers conv'.messages)
        (pure (.ok (text, conv, left))) := by
    rintro text conv left hconv answer conv' left' heq
    cases heq
    exact hconv
  induction left with
  | zero =>
      refine ensures_converse_of_goOn hclient fun conv turn hconv => ?_
      rw [goOn]
      split_ifs
      · exact hended hconv
      · intro answer conv' left' heq
        cases heq
  | succ left ih =>
      refine ensures_converse_of_goOn hclient fun conv turn hconv => ?_
      rw [goOn]
      split_ifs
      · exact hended hconv
      · refine (ensures_answerCalls hinvoke _ _).bind fun outcome houtcome => ?_
        split
        · intro answer conv' left' heq
          cases heq
        · next conv' =>
            obtain ⟨answers, hmessages, hanswers⟩ := houtcome conv' rfl
            refine ih conv' ?_
            rw [hmessages, List.append_assoc]
            exact hconv.settled turn hanswers

lemma orderly_opening (offered : String → Prop) (c : ModelBlockConfig) (inputs : Json.Object) :
    Orderly offered (opening c inputs) := by
  rw [opening]
  refine .said ?_ _ _
  cases systemPrompt c inputs with
  | none => exact .empty
  | some s => exact Orderly.empty.said .system s

lemma orderly_correction {offered : String → Prop} {conv : Conversation}
    (h : Orderly offered conv.messages) (answer : String) (issues : List String) :
    Orderly offered (correction conv answer issues).messages := by
  have hsaid := (h.said .assistant answer).said .user (correctionPrompt issues)
  rwa [List.append_assoc] at hsaid

variable {shared : ModelBlocks}

lemma only_talk
    (hclient : ∀ messages, Orderly frame.Offers messages →
      (shared.client ⟨frame.model, messages, frame.tools, frame.format⟩).Only C)
    (hinvoke : ∀ name, frame.Offers name → ∀ arguments,
      (shared.invoker.invoke name arguments frame.invocation).Only C) (c : ModelBlockConfig)
    (inputs : Json.Object) : (talk shared c frame inputs).Only C := by
  have hconverse := @ensures_converse C shared.client shared.invoker frame hclient hinvoke
  rw [talk]
  refine ((hconverse frame.maxRounds _ (orderly_opening _ c inputs)).bind (Q := fun _ => True)
    fun outcome houtcome => ?_).only
  split
  · exact trivial
  · next answer conv left =>
      have hconv : Orderly frame.Offers conv.messages := houtcome answer conv left rfl
      split
      · exact trivial
      · split
        · exact trivial
        · refine (hconverse left _ (orderly_correction hconv answer _)).bind fun corrected _ => ?_
          split
          · exact trivial
          · split <;> exact trivial

/-- **A model block makes no calls but these**: what its client does for questions in good order,
and what the tools that it offers do. -/
theorem only_executor {b : Block} {c : ModelBlockConfig} (hb : b.config = .llmInference c)
    (hclient : ∀ q : ModelRequest, q.tools = shared.invoker.toolbox.definitionsFor c.enabledTools →
      Orderly (fun name => ∃ t ∈ q.tools, t.name = name) q.messages → (shared.client q).Only C)
    (hinvoke : ∀ t ∈ shared.invoker.toolbox.definitionsFor c.enabledTools, ∀ arguments context,
      (shared.invoker.invoke t.name arguments context).Only C) (inputs : Json.Object)
    (context : BlockContext) : (executor shared b inputs context).Only C := by
  simp only [executor, hb]
  refine Only.bind (only_talk (fun messages hmessages => hclient _ rfl hmessages) ?_ c inputs)
    fun _ => trivial
  rintro name ⟨t, ht, rfl⟩ arguments
  exact hinvoke t ht arguments _

end ModelBlock

/-! ## What goes out -/

namespace WireMessage

/-- **Every tool call is answered where it was made**: behind a message with tool calls come the
answers, one for each call and in the order of the calls, and nowhere else is there an answer. -/
inductive Answered : List WireMessage → Prop
  | nil : Answered []
  | plain {role : String} (hrole : role ≠ "tool") (content : String) {rest : List WireMessage}
      (h : Answered rest) : Answered (.plain role content :: rest)
  | calls (content : Option String) {calls : List WireCall} {answers rest : List WireMessage}
      (hanswers : List.Forall₂ (fun call m => ∃ s, m = .toolAnswer call.id s) calls answers)
      (h : Answered rest) : Answered (.calls content calls :: (answers ++ rest))

variable {front back : List WireMessage}

lemma Answered.append (hfront : Answered front) (hback : Answered back) :
    Answered (front ++ back) := by
  induction hfront with
  | nil => exact hback
  | plain hrole content _ ih => exact .plain hrole content ih
  | calls content hanswers _ ih =>
      rw [List.cons_append, List.append_assoc]
      exact .calls content hanswers ih

/-- A text goes out as a message of its own. -/
lemma answered_ofText (role : Role) (s : String) : Answered (ofMessage (.ofText role s)) := by
  cases role <;> exact .plain (by decide) _ .nil

/-- The answers to tool calls go out one by one. -/
lemma flatMap_ofMessage_answers {offered : String → Prop} {calls : List ToolCall}
    {answers : List ChatMessage}
    (h : List.Forall₂ (ToolCall.IsAnsweredBy offered) calls answers) :
    List.Forall₂ (fun call m => ∃ s, m = .toolAnswer call.id s)
      (calls.map fun c => (⟨c.id, c.name, c.input.compact⟩ : WireCall))
      (answers.flatMap ofMessage) := by
  induction h with
  | nil => exact .nil
  | cons hcall _ ih =>
      obtain ⟨content, isError, rfl, -⟩ := hcall
      exact .cons ⟨content, rfl⟩ ih

/-- The requests of a turn are its tool calls. -/
lemma toolUses_toMessage (turn : Turn) :
    turn.toMessage.toolUses = turn.toolCalls.map fun c => (c.id, c.name, c.input) := by
  rw [Turn.toMessage, ChatMessage.toolUses, List.filterMap_append, List.filterMap_map]
  -- with a text in front or without one, only the calls are left
  split_ifs <;> exact congrFun List.filterMap_eq_map turn.toolCalls

/-- A turn goes out with its tool calls, and the answers behind it. -/
lemma answered_settled {offered : String → Prop} {turn : Turn} {answers : List ChatMessage}
    (h : List.Forall₂ (ToolCall.IsAnsweredBy offered) turn.toolCalls answers) :
    Answered (ofConversation (turn.toMessage :: answers)) := by
  have hanswers := flatMap_ofMessage_answers h
  have huses := toolUses_toMessage turn
  have hrole : turn.toMessage.role = .assistant := rfl
  rw [ofConversation, List.flatMap_cons, ofMessage, hrole]
  cases hcalls : turn.toolCalls with
  | nil =>
      rw [hcalls] at h huses
      cases h
      simp only [huses, List.map_nil]
      exact .plain (by decide) _ .nil
  | cons call calls =>
      rw [hcalls] at hanswers huses
      simp only [huses, List.map_cons, List.map_map]
      have hout := Answered.calls (if turn.toMessage.text.isEmpty then none
        else some turn.toMessage.text) hanswers .nil
      rwa [List.append_nil] at hout

end WireMessage

/-- **What goes out of a conversation in good order is in good order.** -/
theorem Orderly.answered {offered : String → Prop} {messages : List ChatMessage}
    (h : Orderly offered messages) :
    WireMessage.Answered (WireMessage.ofConversation messages) := by
  induction h with
  | empty => exact .nil
  | said before role s ih =>
      rw [WireMessage.ofConversation, List.flatMap_append, List.flatMap_singleton]
      exact ih.append (WireMessage.answered_ofText role s)
  | settled before turn hanswers ih =>
      rw [WireMessage.ofConversation, List.flatMap_append]
      exact ih.append (WireMessage.answered_settled hanswers)

/-- **In every question of a block, every tool call is answered where it was made.**  Whatever
answers come, a block makes no calls but those of its tools and such questions. -/
theorem ModelBlock.questions_answered {C : Call → Prop} {voice : Voice} {shared : ModelBlocks}
    (hclient : shared.client = askModel voice)
    (htools : ∀ name tool, shared.invoker.toolbox.get? name = some tool →
      ∀ input context, (tool.run input context).Only C)
    (b : Block) (inputs : Json.Object) (context : BlockContext) :
    (executor shared b inputs context).Only fun call => C call ∨
      ∃ q, call = .ask voice q ∧ WireMessage.Answered (WireMessage.ofConversation q.messages) := by
  cases hconfig : b.config with
  | llmInference c =>
      refine only_executor hconfig (fun q _ hq => ?_) (fun t _ arguments x => ?_) inputs context
      · rw [hclient]
        exact ⟨.inr ⟨q, rfl, hq.answered⟩, fun _ _ => trivial⟩
      · exact (Invoker.only_invoke (htools t.name) arguments x).mono fun _ => .inl
  | «variable» | codeBlock =>
      simp only [executor, hconfig]
      exact trivial

/-- A block that may send mail: its calls are questions and notes of its mail. -/
theorem ModelBlock.questions_answered_mailing :
    let mail : Tool := .recording "mail" none "sent"
    let shared : ModelBlocks :=
      { client := askModel .worker
        invoker := { toolbox := [("mail", mail)] }
        model := { modelId := "small" } }
    let b : Block :=
      { id := "m", normalizedId := "m", config := .llmInference { enabledTools := ["mail"] } }
    shared.client = askModel .worker ∧
      (∀ name tool, shared.invoker.toolbox.get? name = some tool → ∀ input context,
        (tool.run input context).Only fun call => ∃ use, call = .note use) ∧
      (executor shared b [] ⟨"e", "m", none, false⟩).Only fun call =>
        (∃ use, call = .note use) ∨
        ∃ q, call = .ask .worker q ∧
          WireMessage.Answered (WireMessage.ofConversation q.messages) := by
  intro mail shared b
  have htools : ∀ name tool, shared.invoker.toolbox.get? name = some tool → ∀ input context,
      (tool.run input context).Only fun call => ∃ use, call = .note use := by
    intro name tool hget input context
    rw [Toolbox.get?, Table.get?] at hget
    split_ifs at hget
    · cases hget
      exact ⟨⟨_, rfl⟩, fun _ _ => trivial⟩
    · cases hget
  exact ⟨rfl, htools, questions_answered rfl htools b [] _⟩

end Blockflow
