import Blockflow.Proofs.Dialogue
import Blockflow.Proofs.Secrecy

/-!
# The rounds of a block

A model that keeps asking for tools would keep its block going for ever, so a block has a limited
number of rounds of tools.  The rounds are counted through both conversations of a block: what the
first has left is all that the second gets.  So the limit bounds the questions to the model, and
the tools work behind no more turns than it says.

* `Talk.length_questions_le`, `Talk.eachBehind_working`, `Talk.of_lt_toolTurns` — what the count
  means for a block.
* **`ModelBlock.rounds_bounded`** — a block keeps to its rounds, and comes to an end.
-/

namespace Blockflow

open Activity Log

/-! ## Both conversations -/

namespace Talk

variable {voice : Voice} {c : ModelBlockConfig} {limit : Nat} {log : List LogEntry}
  {r : Option (Except Error BlockOutput)}

/-- Only an answer that should be JSON can have issues. -/
lemma json_of_issues {answer : String} {issues : List String}
    (h : c.read answer = .error issues) : c.outputFormat = .json := by
  cases hformat : c.outputFormat with
  | text =>
      rw [ModelBlockConfig.read, hformat] at h
      cases h
  | json => rfl

/-- **A block puts one question more than it has rounds**, and one more for a correction. -/
lemma length_questions_le (h : Talk voice c limit log r) :
    (questions voice log).length ≤
      limit + match c.outputFormat with
        | .text => 1
        | .json => 2 := by
  cases h with
  | once h hread hclosing =>
      have := h.length_questions_le
      split <;> omega
  | twice h hissues rest hclosing =>
      have hfirst := h.rounds_of_answer
      have hsecond := rest.length_questions_le
      rw [json_of_issues hissues, questions_append, List.length_append]
      dsimp only
      omega

/-- **Tools work only behind a turn that asks for tools**, and not behind more of them than the
limit. -/
lemma eachBehind_working (h : Talk voice c limit log r) :
    EachBehind (fun front x => ∀ call, x = .asked call → call.Spares voice →
      Working voice limit front) log := by
  cases h with
  | once h hread hclosing =>
      exact fun front x back hlog call hx => (h.eachBehind_orders front x back hlog call hx).2
  | twice h hissues rest hclosing =>
      have hrounds := h.rounds_of_answer.1
      refine eachBehind_append_iff.mpr ⟨?_, ?_⟩
      · exact fun front x back hlog call hx => (h.eachBehind_orders front x back hlog call hx).2
      · intro entries x back hlog call hx hspares
        have hworking := (rest.eachBehind_orders entries x back hlog call hx).2 hspares
        exact hrounds ▸ hworking.append _

/-- **A turn that asks for tools when all rounds are used up ends the block.** -/
lemma of_lt_toolTurns (h : Talk voice c limit log r) (hlt : limit < (toolTurns voice log).length) :
    r = some (.error (.toolLoopExceeded limit)) ∧
      ∃ front reply, log = front ++ [.heard reply] ∧ (toolTurns voice front).length = limit := by
  cases h with
  | once h hread hclosing =>
      obtain ⟨rfl, hlast⟩ := h.of_lt_toolTurns hlt
      cases hclosing
      exact ⟨rfl, hlast⟩
  | @twice first second answer left issues ending _ h hissues rest hclosing =>
      have hrounds := h.rounds_of_answer.1
      rw [toolTurns_append, List.length_append] at hlt
      obtain ⟨rfl, front, reply, rfl, hfront⟩ := rest.of_lt_toolTurns (by omega)
      cases hclosing
      refine ⟨rfl, first ++ front, reply, by rw [List.append_assoc], ?_⟩
      rw [toolTurns_append, List.length_append]
      omega

end Talk

/-! ## Blocks -/

/-- Noting a use asks no model. -/
lemma Invoker.Spares.noting {voice : Voice} {i : Invoker} (h : i.Spares voice) :
    i.noting.Spares voice := by
  intro name tool hget input context
  rw [Invoker.noting, Toolbox.get?, Table.get?_mapValues, Option.map_eq_some_iff] at hget
  obtain ⟨tool, hget, rfl⟩ := hget
  refine ⟨?_, fun _ _ => h name tool hget input context⟩
  rintro _ ⟨⟩

/-- **A block keeps to its rounds and comes to an end.**  Let every tool note what it is used for.
Then whatever the model says, a block with a limit of `R` rounds asks it no more than `R + 1` times,
and once more if its answer is to be corrected.  Whatever tools do, they do behind a turn that asks
for them, which is one of the first `R` such turns.  One such turn more ends the block with an
error, and no tool works behind it.  And however all calls are answered, a block ends. -/
theorem ModelBlock.rounds_bounded {voice : Voice} {shared : ModelBlocks}
    (hclient : shared.client = askModel voice) (hspares : shared.invoker.Spares voice) {b : Block}
    {c : ModelBlockConfig} (hb : b.config = .llmInference c) (inputs : Json.Object)
    (context : BlockContext) :
    let R := c.maxToolRounds.getD shared.maxToolRounds
    let run := executor shared.noting b inputs context
    (∀ log r, run.Logs log r →
      ((questions voice log).length ≤
        R + match c.outputFormat with
          | .text => 1
          | .json => 2) ∧
      (∀ front call back, log = front ++ .asked call :: back → call.Spares voice →
        ∃ turn, (turns voice front).getLast? = some turn ∧ turn.wantsTools = true ∧
          (toolTurns voice front).length ≤ R) ∧
      (R < (toolTurns voice log).length →
        r = some (.returned (.error (.toolLoopExceeded R))) ∧
          ∃ front reply, log = front ++ [.heard reply] ∧ (toolTurns voice front).length = R)) ∧
    ∀ answer : List LogEntry → (call : Call) → Nat × call.Answer,
      ∃ log ending, run.Logs log (some ending) ∧
        ∀ front reply back, log = front ++ .heard reply :: back →
          reply.answer = (answer front reply.call).2 := by
  intro R run
  refine ⟨fun log r h => ?_, fun answer => exists_logs_following run answer⟩
  have hnoting : shared.noting.client = askModel voice := hclient
  obtain ⟨result, rfl, htalk⟩ := talk_of_logs hnoting hspares.noting hb h
  refine ⟨htalk.length_questions_le, fun front call back hlog hcall => ?_, fun hlt => ?_⟩
  · exact htalk.eachBehind_working front _ back hlog call rfl hcall
  · obtain ⟨rfl, hlast⟩ := htalk.of_lt_toolTurns hlt
    exact ⟨rfl, hlast⟩

/-- A model with one round that asks for mail, answers without JSON, and asks for mail again when it
is to correct its answer. -/
theorem ModelBlock.rounds_bounded_mailing :
    let shared := ModelBlocks.mailroom
    let c : ModelBlockConfig :=
      { enabledTools := ["mail"], outputFormat := .json, maxToolRounds := some 1 }
    let b : Block := { id := "m", normalizedId := "m", config := .llmInference c }
    let run := executor shared.noting b [] ⟨"e", "m", none, false⟩
    let script : List ScriptStep :=
      [.asksFor "1" "mail" .null, .answers "Sent.", .asksFor "2" "mail" .null]
    let log := (run.follow (scripted script) []).1
    shared.invoker.Spares .worker ∧ (questions .worker log).length = 3 ∧ log.length = 8 ∧
      run.Logs log (some (.returned (.error (.toolLoopExceeded 1)))) := by
  intro shared c b run script log
  have hspares := ModelBlocks.spares_mailroom
  have hlogs : run.Logs log _ := logs_follow run []
  have hexceeded := ((rounds_bounded rfl hspares rfl [] _).1 _ _ hlogs).2.2 (by decide +kernel)
  exact ⟨hspares, by decide +kernel, by decide +kernel, hexceeded.1 ▸ hlogs⟩

end Blockflow
