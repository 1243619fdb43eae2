import Blockflow.Proofs.Json.Accepted
import Blockflow.Workflow.Codec

/-!
# Workflows are read back

A workflow that was read satisfies what its codec asks for on the way back, and is written no
deeper than it was read.  So its text is accepted again.  One thing is lost on the way: a
temperature beyond single width is read as infinite, and there is no numeral for that.

* `Workflow.Proper`, `Workflow.settled` — workflows as they are read, and without the temperatures
  that are lost.
* `Workflow.readsBack`, `Workflow.accepts` — the laws of the codec, from those of its records.
* `Workflow.structureDiffers_settled_iff` — when the loss is a difference.
* **`Workflow.ofText_write`** — the way from an accepted text to a workflow and back.
-/

namespace Blockflow

open Json

/-! ## Proper workflows -/

/-- A value behind an optional field: canonical, and not null, which would be read as none. -/
def Json.Given (v : Json) : Prop := v.Canonical ∧ v ≠ .null

/-- Settings as they are read. -/
def VariableConfig.Proper (c : VariableConfig) : Prop := ∀ v ∈ c.defaultValue, v.Given

@[inherit_doc VariableConfig.Proper]
def ModelBlockConfig.Proper (c : ModelBlockConfig) : Prop :=
  (∀ v ∈ c.outputSchema, v.Given) ∧ ∀ n ∈ c.maxToolRounds, n ≤ maxInteger

@[inherit_doc VariableConfig.Proper]
def ToolBlockConfig.Proper (c : ToolBlockConfig) : Prop := (Json.object c.argumentMapping).Canonical

@[inherit_doc VariableConfig.Proper]
def BlockConfig.Proper : BlockConfig → Prop
  | .variable c => c.Proper
  | .llmInference c => c.Proper
  | .codeBlock c => c.Proper

/-- Settings whose temperature, if there is one, is finite. -/
def BlockConfig.FiniteTemperature : BlockConfig → Prop
  | .llmInference c => ∀ x ∈ c.temperature, x.isFinite = true
  | _ => True

/-- The same settings, without a temperature that is not finite. -/
def BlockConfig.settled : BlockConfig → BlockConfig
  | .llmInference c => .llmInference { c with temperature := c.temperature.filter (·.isFinite) }
  | c => c

/-- A block as it is read: its position is finite, and its normalized id only empty if its id is. -/
structure Block.Proper (b : Block) : Prop where
  config : b.config.Proper
  timeout : b.timeout ≤ maxInteger
  position : ∀ p ∈ b.position, p.x.isFinite = true ∧ p.y.isFinite = true
  normalizedId : b.normalizedId = "" → b.id = ""

/-- The same block, without a temperature that is not finite. -/
def Block.settled (b : Block) : Block := { b with config := b.config.settled }

/-- A declared variable as it is read. -/
def WorkflowVariable.Proper (v : WorkflowVariable) : Prop := ∀ x ∈ v.defaultValue, x.Given

/-- A workflow as it is read. -/
structure Workflow.Proper (w : Workflow) : Prop where
  blocks : ∀ b ∈ w.blocks, b.Proper
  declarations : ∀ v ∈ w.declarations, v.Proper
  version : w.version ≤ maxInteger

/-- No block has a temperature that is not finite. -/
def Workflow.FiniteTemperatures (w : Workflow) : Prop :=
  ∀ b ∈ w.blocks, b.config.FiniteTemperature

/-- The same workflow, without temperatures that are not finite. -/
def Workflow.settled (w : Workflow) : Workflow := { w with blocks := w.blocks.map Block.settled }

/-! ## Settings are read back -/

lemma VariableOperation.restores : VariableOperation.codec.Restores fun _ => True :=
  Codec.restores_words fun x => by cases x <;> rfl

lemma VariableShape.restores : VariableShape.codec.Restores fun _ => True :=
  Codec.restores_words fun x => by cases x <;> rfl

lemma ResponseFormat.restores : ResponseFormat.codec.Restores fun _ => True :=
  Codec.restores_words fun x => by cases x <;> rfl

lemma VariableType.restores : VariableType.codec.Restores fun _ => True :=
  Codec.restores_words fun x => by cases x <;> rfl

lemma text_write_ne_null (s : String) : Codec.text.write s ≠ .null := Json.noConfusion

lemma VariableConfig.restores : VariableConfig.codec.Restores VariableConfig.Proper :=
  .record
    (.cons (Field.readsBack_defaulted "operation" .read VariableOperation.restores) <|
      .cons (Field.readsBack_defaulted "variableName" "input" Codec.restores_text) <|
      .cons (Field.readsBack_defaulted "inputType" .text VariableShape.restores) <|
      .cons (Field.readsBack_optional "defaultValue" Codec.restores_json) <|
      .cons (Field.readsBack_optional "value" Codec.restores_text) <|
      .cons (Field.readsBack_defaulted "required" false Codec.restores_bool) Fields.readsBack_done)
    (by decide)
    fun c hc => ⟨⟨trivial, trivial, trivial, hc, fun s _ => ⟨trivial, text_write_ne_null s⟩,
      trivial, trivial⟩, rfl⟩

/-- Of the settings of a model block, only a temperature that is not finite is lost. -/
lemma ModelBlockConfig.readsBack :
    ModelBlockConfig.codec.ReadsBack ModelBlockConfig.Proper fun c =>
      { c with temperature := c.temperature.filter (·.isFinite) } :=
  .record
    (.cons (Field.readsBack_optional "model" Codec.restores_text) <|
      .cons (Field.readsBack_optional "systemPrompt" Codec.restores_text) <|
      .cons (Field.readsBack_defaulted "userPrompt" "" Codec.restores_text) <|
      .cons (Field.readsBack_defaulted "enabledTools" []
        (Codec.restores_list Codec.restores_text)) <|
      .cons (Field.readsBack_defaulted "outputFormat" .text ResponseFormat.restores) <|
      .cons (Field.readsBack_optional "outputSchema" Codec.restores_json) <|
      .cons (Field.readsBack_optional "maxToolRounds" (Codec.restores_natural "usize" le_rfl)) <|
      .cons (Field.readsBack_optional_of "temperature" Codec.readsBack_option_single rfl)
        Fields.readsBack_done)
    (by decide)
    fun c hc => ⟨⟨fun s _ => ⟨trivial, text_write_ne_null s⟩,
      fun s _ => ⟨trivial, text_write_ne_null s⟩, trivial, fun _ _ => trivial, trivial, hc.1,
      fun n hn => ⟨hc.2 n hn, Json.noConfusion⟩, trivial, trivial⟩, rfl⟩

lemma ToolBlockConfig.restores : ToolBlockConfig.codec.Restores ToolBlockConfig.Proper :=
  .record
    (.cons (Field.readsBack_required "toolName" Codec.restores_text) <|
      .cons (Field.readsBack_defaulted "argumentMapping" [] Codec.restores_object)
        Fields.readsBack_done)
    (by decide) fun _ hc => ⟨⟨trivial, hc, trivial⟩, rfl⟩

/-- The settings of a block are read back from their value. -/
lemma BlockConfig.ofJson_toJson : (c : BlockConfig) → c.Proper →
    BlockConfig.ofJson c.type c.toJson = .ok c.settled
  | .variable _, hc =>
      congrArg (Except.map BlockConfig.variable) (VariableConfig.restores.ofJson hc)
  | .llmInference _, hc =>
      congrArg (Except.map BlockConfig.llmInference) (ModelBlockConfig.readsBack.ofJson hc)
  | .codeBlock _, hc =>
      congrArg (Except.map BlockConfig.codeBlock) (ToolBlockConfig.restores.ofJson hc)

lemma BlockConfig.canonical_toJson : (c : BlockConfig) → c.Proper → c.toJson.Canonical
  | .variable c, hc => VariableConfig.restores.canonical c hc
  | .llmInference c, hc => ModelBlockConfig.readsBack.canonical c hc
  | .codeBlock c, hc => ToolBlockConfig.restores.canonical c hc

lemma BlockConfig.isNull_toJson (c : BlockConfig) : c.toJson.isNull = false := by
  cases c <;> rfl

/-! ## Blocks are read back -/

lemma Position.restores :
    Position.codec.Restores fun p => p.x.isFinite = true ∧ p.y.isFinite = true :=
  .record
    (.cons (Field.readsBack_required "x" Codec.restores_double) <|
      .cons (Field.readsBack_required "y" Codec.restores_double) Fields.readsBack_done)
    (by decide) fun _ hp => ⟨⟨hp.1, hp.2, trivial⟩, rfl⟩

/-- A written block as it is read. -/
structure BlockEntry.Proper (e : BlockEntry) : Prop where
  config : e.config.Canonical
  timeout : e.timeout ≤ maxInteger
  position : ∀ p ∈ e.position, p.x.isFinite = true ∧ p.y.isFinite = true

lemma BlockEntry.restores : BlockEntry.codec.Restores BlockEntry.Proper :=
  .record
    (.cons (Field.readsBack_required "id" Codec.restores_text) <|
      .cons (Field.readsBack_defaulted "normalizedId" "" Codec.restores_text) <|
      .cons (Field.readsBack_defaulted "name" "" Codec.restores_text) <|
      .cons (Field.readsBack_defaulted "description" "" Codec.restores_text) <|
      .cons (Field.readsBack_required "type" Codec.restores_text) <|
      .cons (Field.readsBack_defaulted "config" .null Codec.restores_json) <|
      .cons (Field.readsBack_defaulted "timeout" 0 (Codec.restores_natural "u64" le_rfl)) <|
      .cons (Field.readsBack_optional "position" Position.restores) <|
      .cons (Field.readsBack_defaulted "isOutput" false Codec.restores_bool) Fields.readsBack_done)
    (by decide)
    fun _ he => ⟨⟨trivial, trivial, trivial, trivial, trivial, he.config, he.timeout,
      fun p hp => ⟨he.position p hp, Json.noConfusion⟩, trivial, trivial⟩, rfl⟩

lemma BlockType.ofWord?_word (t : BlockType) : BlockType.ofWord? t.word = some t := by
  cases t <;> rfl

/-- A block is the block of what it is written as. -/
lemma BlockEntry.toBlock_ofBlock {b : Block} (hb : b.Proper) :
    (BlockEntry.ofBlock b).toBlock = .ok b.settled := by
  have hid : (if b.normalizedId.isEmpty then b.id else b.normalizedId) = b.normalizedId := by
    split_ifs with hempty
    · rw [String.isEmpty_iff] at hempty
      rw [hempty, hb.normalizedId hempty]
    · rfl
  have hconfig := b.config.ofJson_toJson hb.config
  unfold toBlock ofBlock
  simp only [Block.type, BlockType.ofWord?_word, BlockConfig.isNull_toJson, Bool.false_eq_true,
    if_false, hconfig, hid, Block.settled]

lemma Block.readsBack : Block.codec.ReadsBack Block.Proper Block.settled :=
  BlockEntry.restores.refine fun b hb =>
    ⟨⟨b.config.canonical_toJson hb.config, hb.timeout, hb.position⟩,
      BlockEntry.toBlock_ofBlock hb⟩

/-! ## Workflows are read back -/

lemma Connection.restores : Connection.codec.Restores fun _ => True :=
  .record
    (.cons (Field.readsBack_defaulted "id" "" Codec.restores_text) <|
      .cons (Field.readsBack_required "sourceBlockId" Codec.restores_text) <|
      .cons (Field.readsBack_defaulted "sourceOutput" "output" Codec.restores_text) <|
      .cons (Field.readsBack_required "targetBlockId" Codec.restores_text) <|
      .cons (Field.readsBack_defaulted "targetInput" "input" Codec.restores_text)
        Fields.readsBack_done)
    (by decide) fun _ _ => ⟨⟨trivial, trivial, trivial, trivial, trivial, trivial⟩, rfl⟩

lemma WorkflowVariable.restores : WorkflowVariable.codec.Restores WorkflowVariable.Proper :=
  .record
    (.cons (Field.readsBack_required "name" Codec.restores_text) <|
      .cons (Field.readsBack_required "type" VariableType.restores) <|
      .cons (Field.readsBack_optional "defaultValue" Codec.restores_json) Fields.readsBack_done)
    (by decide) fun _ hv => ⟨⟨trivial, trivial, hv, trivial⟩, rfl⟩

/-- **Of a workflow, only temperatures that are not finite are lost.** -/
lemma Workflow.readsBack : Workflow.codec.ReadsBack Workflow.Proper Workflow.settled :=
  .record
    (.cons (Field.readsBack_defaulted "id" "" Codec.restores_text) <|
      .cons (Field.readsBack_defaulted "blocks" [] Block.readsBack.list) <|
      .cons (Field.readsBack_defaulted "connections" []
        (Codec.restores_list Connection.restores)) <|
      .cons (Field.readsBack_defaulted "variables" []
        (Codec.restores_list WorkflowVariable.restores)) <|
      .cons (Field.readsBack_defaulted "version" 1 (Codec.restores_natural "u64" le_rfl))
        Fields.readsBack_done)
    (by decide)
    fun _ hw => ⟨⟨trivial, hw.blocks, fun _ _ => trivial, hw.declarations, hw.version, trivial⟩,
      rfl⟩

/-! ## What is accepted -/

lemma VariableConfig.accepts : VariableConfig.codec.Accepts 1 VariableConfig.Proper :=
  .record
    (.cons (Field.accepts_defaulted "operation" (Codec.accepts_words _ _) ⟨trivial, le_rfl⟩) <|
      .cons (Field.accepts_defaulted "variableName" Codec.accepts_text ⟨trivial, le_rfl⟩) <|
      .cons (Field.accepts_defaulted "inputType" (Codec.accepts_words _ _) ⟨trivial, le_rfl⟩) <|
      .cons (Field.accepts_optional_json "defaultValue") <|
      .cons (Field.accepts_optional "value" Codec.accepts_text) <|
      .cons (Field.accepts_defaulted "required" Codec.accepts_bool ⟨trivial, le_rfl⟩) <|
      Fields.accepts_done 0)
    (by decide) (fun _ hc => hc.2.2.2.1) fun _ => rfl

lemma ModelBlockConfig.accepts : ModelBlockConfig.codec.Accepts 2 ModelBlockConfig.Proper :=
  .record
    (.cons (Field.accepts_optional "model" Codec.accepts_text) <|
      .cons (Field.accepts_optional "systemPrompt" Codec.accepts_text) <|
      .cons (Field.accepts_defaulted "userPrompt" Codec.accepts_text ⟨trivial, by decide⟩) <|
      .cons (Field.accepts_defaulted "enabledTools" Codec.accepts_text.list
        ⟨by simp, by decide⟩) <|
      .cons (Field.accepts_defaulted "outputFormat" (Codec.accepts_words _ _)
        ⟨trivial, by decide⟩) <|
      .cons (Field.accepts_optional_json "outputSchema") <|
      .cons (Field.accepts_optional "maxToolRounds" (Codec.accepts_natural _ _)) <|
      .cons (Field.accepts_optional "temperature" (Codec.accepts_float _ _)) <|
      Fields.accepts_done 1)
    (by decide) (fun _ hc => ⟨hc.2.2.2.2.2.1, hc.2.2.2.2.2.2.1⟩) fun _ => rfl

lemma ToolBlockConfig.accepts : ToolBlockConfig.codec.Accepts 2 ToolBlockConfig.Proper :=
  .record
    (.cons (Field.accepts_required "toolName" Codec.accepts_text rfl) <|
      .cons (Field.accepts_defaulted "argumentMapping" Codec.accepts_object
        ⟨⟨List.Pairwise.nil, trivial⟩, by decide⟩) <|
      Fields.accepts_done 1)
    (by decide) (fun _ hc => hc.2.1) fun _ => rfl

/-- The settings of a block are written no deeper than they were read. -/
lemma BlockConfig.proper_of_ofJson {type : BlockType} {v : Json} {c : BlockConfig}
    (hv : v.Canonical) (h : BlockConfig.ofJson type v = .ok c) :
    c.Proper ∧ c.type = type ∧ c.toJson.depth ≤ max 2 v.depth := by
  cases type
  all_goals obtain ⟨c, hc, rfl⟩ := map_eq_ok h
  · obtain ⟨hproper, hdepth⟩ := (VariableConfig.accepts.deeper one_le_two).ofJson hv hc
    exact ⟨hproper, rfl, hdepth⟩
  · obtain ⟨hproper, hdepth⟩ := ModelBlockConfig.accepts.ofJson hv hc
    exact ⟨hproper, rfl, hdepth⟩
  · obtain ⟨hproper, hdepth⟩ := ToolBlockConfig.accepts.ofJson hv hc
    exact ⟨hproper, rfl, hdepth⟩

lemma Position.accepts :
    Position.codec.Accepts 1 fun p => p.x.isFinite = true ∧ p.y.isFinite = true :=
  .record
    (.cons (Field.accepts_required "x" Codec.accepts_double rfl) <|
      .cons (Field.accepts_required "y" Codec.accepts_double rfl) <| Fields.accepts_done 0)
    (by decide) (fun _ hp => ⟨hp.1, hp.2.1⟩) fun _ => rfl

lemma BlockEntry.accepts : BlockEntry.codec.Accepts 2 BlockEntry.Proper :=
  .record
    (.cons (Field.accepts_required "id" Codec.accepts_text rfl) <|
      .cons (Field.accepts_defaulted "normalizedId" Codec.accepts_text ⟨trivial, by decide⟩) <|
      .cons (Field.accepts_defaulted "name" Codec.accepts_text ⟨trivial, by decide⟩) <|
      .cons (Field.accepts_defaulted "description" Codec.accepts_text ⟨trivial, by decide⟩) <|
      .cons (Field.accepts_required "type" Codec.accepts_text rfl) <|
      .cons (Field.accepts_defaulted "config" Codec.accepts_json ⟨trivial, by decide⟩) <|
      .cons (Field.accepts_defaulted "timeout" (Codec.accepts_natural _ _)
        ⟨by decide, by decide⟩) <|
      .cons (Field.accepts_optional "position" Position.accepts) <|
      .cons (Field.accepts_defaulted "isOutput" Codec.accepts_bool ⟨trivial, by decide⟩) <|
      Fields.accepts_done 1)
    (by decide)
    (fun _ he => ⟨he.2.2.2.2.2.1, he.2.2.2.2.2.2.1, he.2.2.2.2.2.2.2.1⟩) fun _ => rfl

/-- A written block nests one level deeper than its settings and its position. -/
lemma BlockEntry.depth_write_le_iff {e : BlockEntry} {n : Nat} :
    (BlockEntry.codec.write e).depth ≤ n + 1 ↔
      e.config.depth ≤ n ∧ ∀ p ∈ e.position, (Position.codec.write p).depth ≤ n := by
  obtain ⟨id, normalizedId, name, description, type, config, timeout, position, isOutput⟩ := e
  cases position with
  | none =>
      refine (Codec.depth_ofList_le_iff [("id", .text id),
        ("normalizedId", .text normalizedId), ("name", .text name),
        ("description", .text description), ("type", .text type), ("config", config),
        ("timeout", .nat timeout), ("isOutput", .bool isOutput)] (by simp)).trans ?_
      simp [depth, Json.nat]
  | some p =>
      refine (Codec.depth_ofList_le_iff [("id", .text id),
        ("normalizedId", .text normalizedId), ("name", .text name),
        ("description", .text description), ("type", .text type), ("config", config),
        ("timeout", .nat timeout), ("position", Position.codec.write p),
        ("isOutput", .bool isOutput)] (by simp)).trans ?_
      simp [depth, Json.nat]

/-- The block of a written one. -/
lemma BlockEntry.toBlock_eq_ok {e : BlockEntry} {b : Block} (h : e.toBlock = .ok b) :
    ∃ type config,
      BlockConfig.ofJson type (if e.config.isNull then .object [] else e.config) = .ok config ∧
      b = { id := e.id
            normalizedId := if e.normalizedId.isEmpty then e.id else e.normalizedId
            name := e.name
            description := e.description
            config
            timeout := e.timeout
            position := e.position
            isOutput := e.isOutput } := by
  unfold toBlock at h
  split at h
  · cases h
  · rename_i type _
    split at h
    · cases h
    · rename_i config hconfig
      cases h
      exact ⟨type, config, hconfig, rfl⟩

lemma Block.accepts : Block.codec.Accepts 3 Block.Proper := by
  intro n source d b hn hd hread
  obtain ⟨e, he, hcheck⟩ := bind_eq_ok (r := BlockEntry.codec.read source d) hread
  obtain ⟨hproper, hdepth⟩ := BlockEntry.accepts n source d e (by omega) hd he
  split at hcheck
  case h_2 => cases hcheck
  rename_i b' hblock
  obtain rfl : b' = b := Except.ok.inj hcheck
  obtain ⟨type, config, hconfig, rfl⟩ := BlockEntry.toBlock_eq_ok hblock
  obtain ⟨m, rfl⟩ := Nat.exists_eq_add_of_le' (by omega : 1 ≤ n)
  obtain ⟨hconfigDepth, hpositionDepth⟩ := BlockEntry.depth_write_le_iff.mp hdepth
  have hvalue : (if e.config.isNull then .object [] else e.config : Json).Canonical ∧
      (if e.config.isNull then .object [] else e.config : Json).depth ≤ m := by
    split_ifs
    · exact ⟨⟨List.Pairwise.nil, trivial⟩, by simp [depth, depthMembers]; omega⟩
    · exact ⟨hproper.config, hconfigDepth⟩
  obtain ⟨hsettings, -, hwritten⟩ := BlockConfig.proper_of_ofJson hvalue.1 hconfig
  refine ⟨⟨hsettings, hproper.timeout, hproper.position, ?_⟩, ?_⟩
  · intro hempty
    dsimp only at hempty ⊢
    split_ifs at hempty with hnone
    · exact hempty
    · rw [hempty] at hnone
      exact absurd rfl hnone
  · exact BlockEntry.depth_write_le_iff.mpr
      ⟨hwritten.trans (max_le (by omega) hvalue.2), hpositionDepth⟩

lemma Connection.accepts : Connection.codec.Accepts 1 fun _ => True :=
  .record
    (.cons (Field.accepts_defaulted "id" Codec.accepts_text ⟨trivial, le_rfl⟩) <|
      .cons (Field.accepts_required "sourceBlockId" Codec.accepts_text rfl) <|
      .cons (Field.accepts_defaulted "sourceOutput" Codec.accepts_text ⟨trivial, le_rfl⟩) <|
      .cons (Field.accepts_required "targetBlockId" Codec.accepts_text rfl) <|
      .cons (Field.accepts_defaulted "targetInput" Codec.accepts_text ⟨trivial, le_rfl⟩) <|
      Fields.accepts_done 0)
    (by decide) (fun _ _ => trivial) fun _ => rfl

lemma WorkflowVariable.accepts : WorkflowVariable.codec.Accepts 1 WorkflowVariable.Proper :=
  .record
    (.cons (Field.accepts_required "name" Codec.accepts_text rfl) <|
      .cons (Field.accepts_required "type" (Codec.accepts_words _ _) rfl) <|
      .cons (Field.accepts_optional_json "defaultValue") <| Fields.accepts_done 0)
    (by decide) (fun _ hv => hv.2.2.1) fun _ => rfl

lemma Workflow.accepts : Workflow.codec.Accepts 5 Workflow.Proper :=
  .record
    (.cons (Field.accepts_defaulted "id" Codec.accepts_text ⟨trivial, by decide⟩) <|
      .cons (Field.accepts_defaulted "blocks" Block.accepts.list ⟨by simp, by decide⟩) <|
      .cons (Field.accepts_defaulted "connections" (Connection.accepts.list.deeper (by decide))
        ⟨by simp, by decide⟩) <|
      .cons (Field.accepts_defaulted "variables" (WorkflowVariable.accepts.list.deeper (by decide))
        ⟨by simp, by decide⟩) <|
      .cons (Field.accepts_defaulted "version" (Codec.accepts_natural _ _)
        ⟨by decide, by decide⟩) <|
      Fields.accepts_done 4)
    (by decide) (fun _ hw => ⟨hw.2.1, hw.2.2.2.1, hw.2.2.2.2.1⟩) fun _ => rfl

/-! ## Comparison with itself

Equality of floating-point numbers is that of numbers, so it holds of a value and itself only
where nothing is not a number. -/

lemma Binary.beq_self {F : FloatFormat} {x : Binary F} (h : x.isFinite = true) :
    (x == x) = true := by
  have hle : x.magnitude ≤ F.infinity := (of_decide_eq_true h).le
  change x.same x = true
  simp [same, hle]

mutual

/-- A canonical value equals itself. -/
lemma Json.same_self : (v : Json) → v.Canonical → v.same v = true
  | .null, _ => rfl
  | .bool b, _ => by simp [Json.same]
  | .number (.int n), _ => by simp [Json.same, Number.same]
  | .number (.float x), h => by
      rw [Json.same, Number.same]
      exact Binary.beq_self h
  | .text s, _ => by simp [Json.same]
  | .array xs, h => Json.sameItems_self xs h
  | .object ms, h => Json.sameMembers_self ms h.2

lemma Json.sameItems_self : (xs : List Json) → CanonicalItems xs → sameItems xs xs = true
  | [], _ => rfl
  | x :: xs, h => by
      rw [sameItems, Json.same_self x h.1, Json.sameItems_self xs h.2, Bool.and_self]

lemma Json.sameMembers_self : (ms : List (String × Json)) → CanonicalMembers ms →
    sameMembers ms ms = true
  | [], _ => rfl
  | (k, x) :: ms, h => by
      rw [sameMembers, Json.same_self x h.1, Json.sameMembers_self ms h.2, decide_eq_true rfl,
        Bool.and_self, Bool.and_self]

end

lemma beq_self_of_forall_mem_list {α : Type} [BEq α] {xs : List α}
    (h : ∀ x ∈ xs, (x == x) = true) : (xs == xs) = true := by
  induction xs with
  | nil => rfl
  | cons x xs ih =>
      rw [List.forall_mem_cons] at h
      rw [List.cons_beq_cons, h.1, ih h.2, Bool.and_self]

lemma beq_self_of_forall_mem_option {α : Type} [BEq α] {o : Option α}
    (h : ∀ x ∈ o, (x == x) = true) : (o == o) = true := by
  cases o with
  | none => rfl
  | some x => exact h x rfl

lemma VariableConfig.beq_self {c : VariableConfig} (h : c.Proper) : (c == c) = true := by
  have hvalue : (c.defaultValue == c.defaultValue) = true :=
    beq_self_of_forall_mem_option fun v hv => Json.same_self v (h v hv).1
  obtain ⟨operation, variableName, shape, defaultValue, value, required⟩ := c
  change instBEqVariableConfig.beq _ _ = true
  simp [instBEqVariableConfig.beq, hvalue]

lemma ModelBlockConfig.beq_self {c : ModelBlockConfig} (h : c.Proper)
    (ht : ∀ x ∈ c.temperature, x.isFinite = true) : (c == c) = true := by
  have hschema : (c.outputSchema == c.outputSchema) = true :=
    beq_self_of_forall_mem_option fun v hv => Json.same_self v (h.1 v hv).1
  have htemperature : (c.temperature == c.temperature) = true :=
    beq_self_of_forall_mem_option fun x hx => Binary.beq_self (ht x hx)
  obtain ⟨model, systemPrompt, userPrompt, enabledTools, outputFormat, outputSchema,
    maxToolRounds, temperature⟩ := c
  change instBEqModelBlockConfig.beq _ _ = true
  simp [instBEqModelBlockConfig.beq, hschema, htemperature]

lemma ToolBlockConfig.beq_self {c : ToolBlockConfig} (h : c.Proper) : (c == c) = true := by
  have hmapping : (c.argumentMapping == c.argumentMapping) = true := by
    refine beq_self_of_forall_mem_list fun m hm => ?_
    have hvalue : (m.2 == m.2) = true := Json.same_self m.2 (canonicalMembers_iff.mp h.2 m hm)
    change (m.1 == m.1 && m.2 == m.2) = true
    rw [hvalue, beq_self_eq_true, Bool.and_self]
  obtain ⟨toolName, argumentMapping⟩ := c
  change instBEqToolBlockConfig.beq _ _ = true
  simp [instBEqToolBlockConfig.beq, hmapping]

lemma BlockConfig.beq_self : (c : BlockConfig) → c.Proper → c.FiniteTemperature → (c == c) = true
  | .variable _, hc, _ => VariableConfig.beq_self hc
  | .llmInference _, hc, ht => ModelBlockConfig.beq_self hc ht
  | .codeBlock _, hc, _ => ToolBlockConfig.beq_self hc

lemma Block.beq_self {b : Block} (h : b.Proper) (ht : b.config.FiniteTemperature) :
    (b == b) = true := by
  have hconfig := b.config.beq_self h.config ht
  have hposition : (b.position == b.position) = true := by
    refine beq_self_of_forall_mem_option fun p hp => ?_
    change instBEqPosition.beq p p = true
    obtain ⟨hx, hy⟩ := h.position p hp
    simp [instBEqPosition.beq, Binary.beq_self hx, Binary.beq_self hy]
  obtain ⟨id, normalizedId, name, description, config, timeout, position, isOutput⟩ := b
  change instBEqBlock.beq _ _ = true
  simp [instBEqBlock.beq, hconfig, hposition]

lemma WorkflowVariable.beq_self {v : WorkflowVariable} (h : v.Proper) : (v == v) = true := by
  have hvalue : (v.defaultValue == v.defaultValue) = true :=
    beq_self_of_forall_mem_option fun x hx => Json.same_self x (h x hx).1
  obtain ⟨name, type, defaultValue⟩ := v
  change instBEqWorkflowVariable.beq _ _ = true
  simp [instBEqWorkflowVariable.beq, hvalue]

/-- A workflow does not differ from itself. -/
lemma Workflow.structureDiffers_self {w : Workflow} (h : w.Proper) (ht : w.FiniteTemperatures) :
    w.structureDiffers w = false := by
  have hblocks : (w.blocks == w.blocks) = true :=
    beq_self_of_forall_mem_list fun b hb => Block.beq_self (h.blocks b hb) (ht b hb)
  have hvariables : (w.declarations == w.declarations) = true :=
    beq_self_of_forall_mem_list fun v hv => WorkflowVariable.beq_self (h.declarations v hv)
  simp [structureDiffers, bne, hblocks, hvariables]

/-! ## Lost temperatures -/

lemma filter_isFinite_eq_self_iff {o : Option Single} :
    o.filter (·.isFinite) = o ↔ ∀ x ∈ o, x.isFinite = true := by
  cases o with
  | none => simp
  | some x => by_cases hx : x.isFinite <;> simp [hx]

lemma BlockConfig.settled_eq_self_iff : (c : BlockConfig) →
    (c.settled = c ↔ c.FiniteTemperature)
  | .variable _ => by simp [settled, FiniteTemperature]
  | .codeBlock _ => by simp [settled, FiniteTemperature]
  | .llmInference c => by
      obtain ⟨model, systemPrompt, userPrompt, enabledTools, outputFormat, outputSchema,
        maxToolRounds, temperature⟩ := c
      simp only [settled, FiniteTemperature, BlockConfig.llmInference.injEq,
        ModelBlockConfig.mk.injEq, true_and]
      exact filter_isFinite_eq_self_iff

lemma Block.settled_eq_self_iff {b : Block} : b.settled = b ↔ b.config.FiniteTemperature := by
  rw [← BlockConfig.settled_eq_self_iff]
  obtain ⟨id, normalizedId, name, description, config, timeout, position, isOutput⟩ := b
  simp [settled]

lemma Workflow.settled_eq_self_iff {w : Workflow} : w.settled = w ↔ w.FiniteTemperatures := by
  have hblocks : w.settled = w ↔ w.blocks.map Block.settled = w.blocks := by
    obtain ⟨id, blocks, connections, declarations, version⟩ := w
    simp [settled]
  have hmap : w.blocks.map Block.settled = w.blocks ↔ ∀ b ∈ w.blocks, b.settled = b := by
    rw [← List.map_id w.blocks, List.map_map, List.map_inj_left]
    simp
  rw [hblocks, hmap]
  simp only [Block.settled_eq_self_iff, FiniteTemperatures]

lemma filter_isFinite_of_beq {o : Option Single} (h : (o == o.filter (·.isFinite)) = true) :
    ∀ x ∈ o, x.isFinite = true := by
  cases o with
  | none => simp
  | some x =>
      by_cases hx : x.isFinite
      · simpa using hx
      · have hnone : (some x).filter (·.isFinite) = none := by simp [hx]
        rw [hnone] at h
        cases h

/-- A temperature that was lost makes a difference. -/
lemma BlockConfig.finiteTemperature_of_beq : (c : BlockConfig) →
    (c == c.settled) = true → c.FiniteTemperature
  | .variable _, _ => trivial
  | .codeBlock _, _ => trivial
  | .llmInference c, h => by
      have hconfig : (c == { c with temperature := c.temperature.filter (·.isFinite) }) = true := h
      obtain ⟨model, systemPrompt, userPrompt, enabledTools, outputFormat, outputSchema,
        maxToolRounds, temperature⟩ := c
      change instBEqModelBlockConfig.beq _ _ = true at hconfig
      simp only [instBEqModelBlockConfig.beq, Bool.and_eq_true] at hconfig
      exact filter_isFinite_of_beq hconfig.2.2.2.2.2.2.2

lemma Block.finiteTemperature_of_beq {b : Block} (h : (b == b.settled) = true) :
    b.config.FiniteTemperature := by
  obtain ⟨id, normalizedId, name, description, config, timeout, position, isOutput⟩ := b
  change instBEqBlock.beq _ _ = true at h
  simp only [instBEqBlock.beq, settled, Bool.and_eq_true] at h
  exact config.finiteTemperature_of_beq h.2.2.2.2.1

lemma beq_of_beq_map {α : Type} [BEq α] {f : α → α} {xs : List α} (h : (xs == xs.map f) = true) :
    ∀ x ∈ xs, (x == f x) = true := by
  induction xs with
  | nil => simp
  | cons x xs ih =>
      rw [List.map_cons, List.cons_beq_cons, Bool.and_eq_true] at h
      exact List.forall_mem_cons.mpr ⟨h.1, ih h.2⟩

/-- **A proper workflow differs from what is read back exactly when a temperature is lost.** -/
lemma Workflow.structureDiffers_settled_iff {w : Workflow} (h : w.Proper) :
    w.structureDiffers w.settled = false ↔ w.FiniteTemperatures := by
  constructor
  · intro hsame b hb
    simp only [structureDiffers, bne, settled, Bool.or_eq_false_iff, Bool.not_eq_false'] at hsame
    exact Block.finiteTemperature_of_beq (beq_of_beq_map hsame.1.1 b hb)
  · intro hfinite
    rw [settled_eq_self_iff.mpr hfinite]
    exact structureDiffers_self h hfinite

/-! ## The way to a text and back -/

/-- What a text of a proper workflow is read as. -/
lemma Workflow.decode_write {w : Workflow} (h : w.Proper) (hdepth : (codec.write w).depth ≤ 127)
    (hfloats : (codec.write w).FloatsLegible) :
    codec.decode (codec.write w).compact = .ok w.settled := by
  rw [readsBack.decode h hfloats, if_pos hdepth]

/-- Reading a workflow is decoding it. -/
lemma Workflow.ofText_eq_ok_iff {source : String} {w : Workflow} :
    ofText source = .ok w ↔ codec.decode source = .ok w := by
  unfold ofText Codec.ofText
  cases codec.decode source <;> simp [Except.mapError]

/-- **An accepted workflow is accepted again when it was written, and read as itself but for
temperatures that single width cannot hold**: it comes back whole, and without a difference in
structure, exactly when all its temperatures are finite. -/
theorem Workflow.ofText_write {source : String} {w : Workflow} (h : ofText source = .ok w)
    (hfloats : (codec.write w).FloatsLegible) :
    ofText (codec.write w).compact = .ok w.settled ∧
      (w.settled = w ↔ w.FiniteTemperatures) ∧
      (w.structureDiffers w.settled = false ↔ w.FiniteTemperatures) := by
  obtain ⟨hproper, hdepth⟩ := accepts.decode (by decide) (ofText_eq_ok_iff.mp h)
  exact ⟨ofText_eq_ok_iff.mpr (decode_write hproper hdepth hfloats), settled_eq_self_iff,
    structureDiffers_settled_iff hproper⟩

/-- A workflow with a block of each kind, the first of them written as an array. -/
def Workflow.mixedText : String :=
  "\x7b\"id\": \"mixed\", \"version\": 3, \"blocks\": [" ++
    "[\"seed\", \"\", \"\", \"\", \"variable\", [\"set\", \"x\", \"json\", [1, 2.5]], 9, [1, -2.25]], " ++
    "\x7b\"id\": \"ask\", \"type\": \"llm_inference\", \"config\": \x7b\"temperature\": 0.7\x7d\x7d, " ++
    "\x7b\"id\": \"call\", \"type\": \"code_block\", \"config\": [\"echo\", \x7b\"n\": -0.0\x7d]\x7d]\x7d"

theorem Workflow.ofText_write_mixed :
    ∃ w, ofText mixedText = .ok w ∧ (codec.write w).FloatsLegible ∧
      ofText (codec.write w).compact = .ok w.settled ∧
      (w.settled = w ↔ w.FiniteTemperatures) ∧
      (w.structureDiffers w.settled = false ↔ w.FiniteTemperatures) := by
  have hlegible : ((ofText mixedText).toOption.map fun w =>
      (codec.write w).numbers.all fun n => decide n.Legible) = some true := by decide +kernel
  cases hw : ofText mixedText with
  | error e =>
      rw [hw] at hlegible
      cases hlegible
  | ok w =>
      rw [hw] at hlegible
      have hfloats : (codec.write w).FloatsLegible := fun x hx =>
        of_decide_eq_true (List.all_eq_true.mp (Option.some.inj hlegible) _ hx)
      exact ⟨w, rfl, hfloats, ofText_write hw hfloats⟩

/-- A temperature beyond single width is written as null, although no numeral is misread: what is
read back differs. -/
theorem Workflow.differs_beyond_single :
    ((ofText "\x7b\"blocks\": [\x7b\"id\": \"b\", \"type\": \"llm_inference\", \"config\": \x7b\"temperature\": 1e39\x7d\x7d]\x7d").toOption.bind
        fun w => (ofText (codec.write w).compact).toOption.map fun w' =>
          ((codec.write w).numbers.all fun n => decide n.Legible, w.structureDiffers w')) =
      some (true, true) := by
  decide +kernel

end Blockflow
