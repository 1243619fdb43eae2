import Blockflow.Proofs.Conversation
import Blockflow.Proofs.Secrecy

/-!
# The tools a block may use

A model names the tools it wants as it likes.  A block executes a tool for it only if the block
enables the tool and the tool is registered; everything else is refused where it was asked for, in a
correction as well as before, and nothing happens.

* `Toolbox.Named` — tools that are kept under their own names, as `Toolbox.register` keeps them.
* **`Toolbox.Allows`** — tools that are enabled and registered; they are the ones that a model is
  told of (`Toolbox.Named.definitionsFor_iff`).
* **`ModelBlock.tools_allowed`** — the uses of tools by a block.
-/

namespace Blockflow

open Activity

namespace Toolbox

variable {box : Toolbox}

/-- Tools that are kept under their own names. -/
def Named (box : Toolbox) : Prop := ∀ name tool, box.get? name = some tool → tool.name = name

lemma named_empty : Named [] := nofun

lemma Named.register (h : box.Named) (tool : Tool) : (box.register tool).Named := by
  intro name tool' hget
  rw [Toolbox.register, Toolbox.get?] at hget
  by_cases hname : name = tool.name
  · rw [hname, Table.get?_insert_self] at hget
    cases hget
    exact hname.symm
  · rw [Table.get?_insert_of_ne _ _ hname] at hget
    exact h name tool' hget

lemma Named.unregister (h : box.Named) (name : String) : (box.unregister name).1.Named := by
  intro name' tool hget
  rw [Toolbox.unregister, Toolbox.get?, Table.erase,
    Table.get?_filter (fun key => key != name)] at hget
  split_ifs at hget
  exact h name' tool hget

/-- **Tools that are enabled and registered.** -/
def Allows (box : Toolbox) (enabled : List String) (name : String) : Prop :=
  name ∈ enabled ∧ ∃ tool, box.get? name = some tool

/-- A model is told of the tools that are enabled and registered. -/
lemma Named.definitionsFor_iff (h : box.Named) {enabled : List String} {name : String} :
    (∃ t ∈ box.definitionsFor enabled, t.name = name) ↔ box.Allows enabled name := by
  simp only [definitionsFor, List.mem_filterMap, Option.map_eq_some_iff]
  constructor
  · rintro ⟨t, ⟨key, hkey, tool, hget, rfl⟩, rfl⟩
    have hname : tool.definition.name = key := h key tool hget
    rw [hname]
    exact ⟨hkey, tool, hget⟩
  · rintro ⟨hname, tool, hget⟩
    exact ⟨_, ⟨name, hname, tool, hget, rfl⟩, h name tool hget⟩

/-- A model is not told whether tools note their uses. -/
lemma definitionsFor_noting (box : Toolbox) :
    definitionsFor (Table.mapValues Tool.noting box) = box.definitionsFor := by
  funext enabled
  refine List.filterMap_congr fun name _ => ?_
  rw [get?, Table.get?_mapValues, Option.map_map]
  rfl

end Toolbox

/-- **A block uses the tools that it enables and that are registered, and no others.**  Let every
tool note what it is used for.  Then whatever answers come, in a correction as well as before, a
block makes no calls but those of tools that it enables, notes of uses of tools that it enables and
that are registered, and questions in which every call of another tool is refused with an error; and
nothing is done about such a call. -/
theorem ModelBlock.tools_allowed {C : Call → Prop} {voice : Voice} {shared : ModelBlocks}
    (hclient : shared.client = askModel voice) (hnamed : shared.invoker.toolbox.Named) {b : Block}
    {c : ModelBlockConfig} (hb : b.config = .llmInference c)
    (htools : ∀ name ∈ c.enabledTools, ∀ tool, shared.invoker.toolbox.get? name = some tool →
      ∀ input context, (tool.run input context).Only C)
    (inputs : Json.Object) (context : BlockContext) :
    let allowed := shared.invoker.toolbox.Allows c.enabledTools
    ((executor shared.noting b inputs context).Only fun call => C call ∨
        (∃ use, call = .note use ∧ allowed use.tool) ∨
        ∃ q, call = .ask voice q ∧ Orderly allowed q.messages) ∧
      ∀ frame : ConversationFrame,
        frame.tools = shared.noting.invoker.toolbox.definitionsFor c.enabledTools →
        ∀ call, ¬ allowed call.name →
          answerCall shared.noting.invoker frame call = pure (.ok (refusal call.name, true)) := by
  intro allowed
  have hoffers : ∀ {tools : List ToolDefinition},
      tools = shared.noting.invoker.toolbox.definitionsFor c.enabledTools →
      (fun name => ∃ t ∈ tools, t.name = name) = allowed := by
    rintro _ rfl
    funext name
    rw [show shared.noting.invoker.toolbox.definitionsFor = _ from
      Toolbox.definitionsFor_noting shared.invoker.toolbox]
    exact propext hnamed.definitionsFor_iff
  refine ⟨only_executor hb (fun q htools hq => ?_) (fun t ht arguments x => ?_) inputs context,
    fun frame hframe call hcall => ?_⟩
  · rw [hoffers htools] at hq
    rw [show shared.noting.client = askModel voice from hclient]
    exact ⟨.inr (.inr ⟨q, rfl, hq⟩), fun _ _ => trivial⟩
  · have hallowed : allowed t.name := by
      rw [← hoffers rfl]
      exact ⟨t, ht, rfl⟩
    refine Invoker.only_invoke (fun tool hget input context => ?_) arguments x
    rw [ModelBlocks.noting, Invoker.noting, Toolbox.get?, Table.get?_mapValues,
      Option.map_eq_some_iff] at hget
    obtain ⟨tool, hget, rfl⟩ := hget
    have huse : allowed tool.name := by
      rw [hnamed _ tool hget]
      exact hallowed
    exact ⟨.inr (.inl ⟨_, rfl, huse⟩),
      fun _ _ => (htools _ hallowed.1 tool hget input context).mono fun _ => .inl⟩
  · refine answerCall_of_not_offers fun hoffered => hcall ?_
    rw [← hoffers hframe]
    exact hoffered

/-- A block that enables one of two registered tools and one that is not there: it uses the one, and
a call of the other is refused. -/
theorem ModelBlock.tools_allowed_mailing :
    let shared : ModelBlocks :=
      { client := askModel .worker
        invoker :=
          { toolbox := Toolbox.register (Toolbox.register [] (.echo "fax")) (.echo "mail") }
        model := { modelId := "small" } }
    let c : ModelBlockConfig := { enabledTools := ["mail", "pigeon"] }
    let b : Block := { id := "m", normalizedId := "m", config := .llmInference c }
    let frame : ConversationFrame :=
      { model := shared.model
        tools := shared.noting.invoker.toolbox.definitionsFor c.enabledTools
        format := .text
        maxRounds := 5
        invocation := ⟨"e", "m", none⟩
        cancelled := false }
    let allowed := shared.invoker.toolbox.Allows c.enabledTools
    shared.invoker.toolbox.Named ∧ allowed "mail" ∧ ¬ allowed "fax" ∧ ¬ allowed "pigeon" ∧
      ((executor shared.noting b [] ⟨"e", "m", none, false⟩).Only fun call => False ∨
        (∃ use, call = .note use ∧ allowed use.tool) ∨
        ∃ q, call = .ask .worker q ∧ Orderly allowed q.messages) ∧
      answerCall shared.noting.invoker frame ⟨"1", "fax", .null⟩ =
        pure (.ok (refusal "fax", true)) := by
  intro shared c b frame allowed
  have hnamed : shared.invoker.toolbox.Named :=
    (Toolbox.named_empty.register (.echo "fax")).register (.echo "mail")
  have hfax : ¬ allowed "fax" := fun h => absurd h.1 (by decide)
  have hpigeon : ¬ allowed "pigeon" := by
    rintro ⟨-, tool, hget⟩
    cases hget
  have htools : ∀ name ∈ c.enabledTools, ∀ tool, shared.invoker.toolbox.get? name = some tool →
      ∀ input context, (tool.run input context).Only fun _ => False := by
    intro name hname tool hget input context
    simp only [c, List.mem_cons, List.not_mem_nil, or_false] at hname
    rcases hname with rfl | rfl
    · cases hget
      exact trivial
    · cases hget
  have huses := tools_allowed (b := b) rfl hnamed rfl htools [] ⟨"e", "m", none, false⟩
  exact ⟨hnamed, ⟨by decide, _, rfl⟩, hfax, hpigeon, huses.1,
    huses.2 frame rfl ⟨"1", "fax", .null⟩ hfax⟩

end Blockflow
