import Blockflow.Execution.Basic
import Blockflow.Proofs.Json.Codec
import Blockflow.Proofs.Json.Parts
import Blockflow.Proofs.Timestamp

/-!
# Responses are read back

A response carries the inputs and outputs of every block as they were, under a few levels of its
own.  Its text is read as the same response as long as all of it together nests no deeper than a
text may.

* `BlockState.Proper`, `FileRef.Proper`, `ExecutionMetadata.Proper`, `ExecutionResponse.Proper` —
  what the fields may hold: sorted objects, numbers of sixty-four bits, points in time.
* **`ExecutionResponse.restores`** — the law of the codec, from those of its records.
* `ExecutionResponse.depth_write_le_iff`, `ExecutionResponse.floatsLegible_write_iff` — how deeply
  a response nests and which floating-point numbers it holds, by the inputs and outputs of blocks.
-/

namespace Blockflow

open Json

/-! ## Words, counters and points in time -/

lemma ErrorKind.restores : ErrorKind.codec.Restores fun _ => True :=
  Codec.restores_words fun x => by cases x <;> rfl

lemma BlockStatus.restores : BlockStatus.codec.Restores fun _ => True :=
  Codec.restores_words fun x => by cases x <;> rfl

lemma ExecutionStatus.restores : ExecutionStatus.codec.Restores fun _ => True :=
  Codec.restores_words fun x => by cases x <;> rfl

lemma TokenUsage.restores_counter : TokenUsage.counter.Restores fun _ => True where
  read_write n _ source := by
    have hread : Codec.u64.read source (Draft.ofJson (.nat n.toNat)) =
        source.within (Json.nat n.toNat).depth n.toNat :=
      (Codec.restores_natural "u64" le_rfl).read_write n.toNat
        (Nat.le_of_lt_succ n.toNat_lt_size) source
    change (Codec.u64.read source (Draft.ofJson (.nat n.toNat))).map UInt64.ofNat =
      source.within (Json.nat n.toNat).depth n
    rw [hread, Source.map_within, UInt64.ofNat_toNat]
  canonical n _ :=
    (Codec.restores_natural "u64" le_rfl).canonical n.toNat (Nat.le_of_lt_succ n.toNat_lt_size)

lemma Timestamp.restores : Timestamp.codec.Restores Timestamp.Proper where
  read_write t ht source := by
    have hwrite : Draft.ofJson (codec.write t) = .text t.render := rfl
    have hdepth : (codec.write t).depth = 0 := rfl
    rw [hwrite, hdepth, Source.within_zero]
    unfold codec
    simp only [parse_render ht]
    rfl
  canonical _ _ := trivial

/-! ## Records -/

/-- A state whose objects are canonical and whose points in time the calendar has. -/
structure BlockState.Proper (s : BlockState) : Prop where
  inputs : (Json.object s.inputs).Canonical
  outputs : (Json.object s.outputs).Canonical
  startedAt : ∀ t ∈ s.startedAt, t.Proper
  completedAt : ∀ t ∈ s.completedAt, t.Proper

lemma BlockState.restores : BlockState.codec.Restores BlockState.Proper :=
  .record
    (.cons (Field.readsBack_required "status" BlockStatus.restores) <|
      .cons (Field.readsBack_defaulted "inputs" [] Codec.restores_object) <|
      .cons (Field.readsBack_defaulted "outputs" [] Codec.restores_object) <|
      .cons (Field.readsBack_optional "error" Codec.restores_text) <|
      .cons (Field.readsBack_optional "error_kind" ErrorKind.restores) <|
      .cons (Field.readsBack_optional "warning" Codec.restores_text) <|
      .cons (Field.readsBack_optional "started_at" Timestamp.restores) <|
      .cons (Field.readsBack_optional "completed_at" Timestamp.restores) Fields.readsBack_done)
    (by decide)
    fun _ hs => ⟨⟨trivial, hs.inputs, hs.outputs, fun _ _ => ⟨trivial, Json.noConfusion⟩,
      fun _ _ => ⟨trivial, Json.noConfusion⟩, fun _ _ => ⟨trivial, Json.noConfusion⟩,
      fun t ht => ⟨hs.startedAt t ht, Json.noConfusion⟩,
      fun t ht => ⟨hs.completedAt t ht, Json.noConfusion⟩, trivial⟩, rfl⟩

lemma Artifact.restores : Artifact.codec.Restores fun _ => True :=
  .record
    (.cons (Field.readsBack_required "type" Codec.restores_text) <|
      .cons (Field.readsBack_optional "format" Codec.restores_text) <|
      .cons (Field.readsBack_required "data" Codec.restores_text) <|
      .cons (Field.readsBack_optional "title" Codec.restores_text) <|
      .cons (Field.readsBack_required "source_block" Codec.restores_text) Fields.readsBack_done)
    (by decide)
    fun _ _ => ⟨⟨trivial, fun _ _ => ⟨trivial, Json.noConfusion⟩, trivial,
      fun _ _ => ⟨trivial, Json.noConfusion⟩, trivial, trivial⟩, rfl⟩

/-- A file whose size is a number of sixty-four bits. -/
def FileRef.Proper (f : FileRef) : Prop := ∀ n ∈ f.size, n ≤ maxInteger

lemma FileRef.restores : FileRef.codec.Restores FileRef.Proper :=
  .record
    (.cons (Field.readsBack_required "file_id" Codec.restores_text) <|
      .cons (Field.readsBack_required "filename" Codec.restores_text) <|
      .cons (Field.readsBack_optional "mime_type" Codec.restores_text) <|
      .cons (Field.readsBack_optional "size" (Codec.restores_natural "u64" le_rfl)) <|
      .cons (Field.readsBack_optional "download_url" Codec.restores_text) <|
      .cons (Field.readsBack_required "source_block" Codec.restores_text) Fields.readsBack_done)
    (by decide)
    fun _ hf => ⟨⟨trivial, trivial, fun _ _ => ⟨trivial, Json.noConfusion⟩,
      fun n hn => ⟨hf n hn, Json.noConfusion⟩, fun _ _ => ⟨trivial, Json.noConfusion⟩, trivial,
      trivial⟩, rfl⟩

/-- Numbers of sixty-four bits. -/
structure ExecutionMetadata.Proper (m : ExecutionMetadata) : Prop where
  workflowVersion : m.workflowVersion ≤ maxInteger
  durationMs : m.durationMs ≤ maxInteger
  blocksTotal : m.blocksTotal ≤ maxInteger
  blocksExecuted : m.blocksExecuted ≤ maxInteger
  blocksFailed : m.blocksFailed ≤ maxInteger
  blocksSkipped : m.blocksSkipped ≤ maxInteger

lemma ExecutionMetadata.restores : ExecutionMetadata.codec.Restores ExecutionMetadata.Proper :=
  .record
    (.cons (Field.readsBack_required "execution_id" Codec.restores_text) <|
      .cons (Field.readsBack_optional "agent_id" Codec.restores_text) <|
      .cons (Field.readsBack_required "workflow_id" Codec.restores_text) <|
      .cons (Field.readsBack_required "workflow_version" (Codec.restores_natural "u64" le_rfl)) <|
      .cons (Field.readsBack_required "duration_ms" (Codec.restores_natural "u64" le_rfl)) <|
      .cons (Field.readsBack_required "input_tokens" TokenUsage.restores_counter) <|
      .cons (Field.readsBack_required "output_tokens" TokenUsage.restores_counter) <|
      .cons (Field.readsBack_required "blocks_total" (Codec.restores_natural "usize" le_rfl)) <|
      .cons (Field.readsBack_required "blocks_executed" (Codec.restores_natural "usize" le_rfl)) <|
      .cons (Field.readsBack_required "blocks_failed" (Codec.restores_natural "usize" le_rfl)) <|
      .cons (Field.readsBack_required "blocks_skipped" (Codec.restores_natural "usize" le_rfl))
        Fields.readsBack_done)
    (by decide)
    fun _ hm => ⟨⟨trivial, fun _ _ => ⟨trivial, Json.noConfusion⟩, trivial, hm.workflowVersion,
      hm.durationMs, trivial, trivial, hm.blocksTotal, hm.blocksExecuted, hm.blocksFailed,
      hm.blocksSkipped, trivial⟩, rfl⟩

/-- A response whose parts are proper and whose states are listed by block. -/
structure ExecutionResponse.Proper (r : ExecutionResponse) : Prop where
  files : ∀ f ∈ r.files, f.Proper
  sorted : Table.Sorted r.blocks
  blocks : ∀ e ∈ r.blocks, e.2.Proper
  metadata : r.metadata.Proper

/-- **A response is read back**, wherever it may nest as deeply as it does. -/
theorem ExecutionResponse.restores : ExecutionResponse.codec.Restores ExecutionResponse.Proper :=
  .record
    (.cons (Field.readsBack_required "status" ExecutionStatus.restores) <|
      .cons (Field.readsBack_required "result" Codec.restores_text) <|
      .cons (Field.readsBack_defaulted "artifacts" [] (Codec.restores_list Artifact.restores)) <|
      .cons (Field.readsBack_defaulted "files" [] (Codec.restores_list FileRef.restores)) <|
      .cons (Field.readsBack_defaulted "blocks" [] BlockState.restores.table) <|
      .cons (Field.readsBack_required "metadata" ExecutionMetadata.restores) <|
      .cons (Field.readsBack_optional "error" Codec.restores_text) Fields.readsBack_done)
    (by decide)
    fun _ hr => ⟨⟨trivial, trivial, fun _ _ => trivial, hr.files, ⟨hr.sorted, hr.blocks⟩,
      hr.metadata, fun _ _ => ⟨trivial, Json.noConfusion⟩, trivial⟩, rfl⟩

/-! ## What a response nests -/

lemma Timestamp.flat_write (t : Timestamp) : (codec.write t).Flat := trivial

lemma TokenUsage.flat_counter (n : UInt64) : (counter.write n).Flat := trivial

/-- A state is written around its inputs and outputs. -/
lemma BlockState.embeds :
    BlockState.codec.Embeds fun s => [Codec.object.write s.inputs, Codec.object.write s.outputs] :=
  .record
    (.flat (Field.flat_required "status" (Codec.flat_words _ BlockStatus.word)) <|
      .part (Field.always_defaulted "inputs" Codec.object []) <|
      .part (Field.always_defaulted "outputs" Codec.object []) <|
      .flat (Field.flat_optional "error" Codec.flat_text) <|
      .flat (Field.flat_optional "error_kind" (Codec.flat_words _ ErrorKind.word)) <|
      .flat (Field.flat_optional "warning" Codec.flat_text) <|
      .flat (Field.flat_optional "started_at" Timestamp.flat_write) <|
      .flat (Field.flat_optional "completed_at" Timestamp.flat_write) Fields.embeds_done)
    (by decide)

lemma Artifact.embeds : Artifact.codec.Embeds fun _ => [] :=
  .record
    (.flat (Field.flat_required "type" Codec.flat_text) <|
      .flat (Field.flat_optional "format" Codec.flat_text) <|
      .flat (Field.flat_required "data" Codec.flat_text) <|
      .flat (Field.flat_optional "title" Codec.flat_text) <|
      .flat (Field.flat_required "source_block" Codec.flat_text) Fields.embeds_done)
    (by decide)

lemma FileRef.embeds : FileRef.codec.Embeds fun _ => [] :=
  .record
    (.flat (Field.flat_required "file_id" Codec.flat_text) <|
      .flat (Field.flat_required "filename" Codec.flat_text) <|
      .flat (Field.flat_optional "mime_type" Codec.flat_text) <|
      .flat (Field.flat_optional "size" (Codec.flat_natural maxInteger "u64")) <|
      .flat (Field.flat_optional "download_url" Codec.flat_text) <|
      .flat (Field.flat_required "source_block" Codec.flat_text) Fields.embeds_done)
    (by decide)

lemma ExecutionMetadata.embeds : ExecutionMetadata.codec.Embeds fun _ => [] :=
  .record
    (.flat (Field.flat_required "execution_id" Codec.flat_text) <|
      .flat (Field.flat_optional "agent_id" Codec.flat_text) <|
      .flat (Field.flat_required "workflow_id" Codec.flat_text) <|
      .flat (Field.flat_required "workflow_version" (Codec.flat_natural maxInteger "u64")) <|
      .flat (Field.flat_required "duration_ms" (Codec.flat_natural maxInteger "u64")) <|
      .flat (Field.flat_required "input_tokens" TokenUsage.flat_counter) <|
      .flat (Field.flat_required "output_tokens" TokenUsage.flat_counter) <|
      .flat (Field.flat_required "blocks_total" (Codec.flat_natural maxInteger "usize")) <|
      .flat (Field.flat_required "blocks_executed" (Codec.flat_natural maxInteger "usize")) <|
      .flat (Field.flat_required "blocks_failed" (Codec.flat_natural maxInteger "usize")) <|
      .flat (Field.flat_required "blocks_skipped" (Codec.flat_natural maxInteger "usize"))
        Fields.embeds_done)
    (by decide)

lemma ExecutionResponse.embeds :
    ExecutionResponse.codec.Embeds fun r =>
      [Artifact.codec.list.write r.artifacts, FileRef.codec.list.write r.files,
        BlockState.codec.table.write r.blocks, ExecutionMetadata.codec.write r.metadata] :=
  .record
    (.flat (Field.flat_required "status" (Codec.flat_words _ ExecutionStatus.word)) <|
      .flat (Field.flat_required "result" Codec.flat_text) <|
      .part (Field.always_defaulted "artifacts" Artifact.codec.list []) <|
      .part (Field.always_defaulted "files" FileRef.codec.list []) <|
      .part (Field.always_defaulted "blocks" BlockState.codec.table []) <|
      .part (Field.always_required "metadata" ExecutionMetadata.codec) <|
      .flat (Field.flat_optional "error" Codec.flat_text) Fields.embeds_done)
    (by decide)

/-- A response nests three levels deeper than the inputs and outputs of its blocks. -/
lemma ExecutionResponse.depth_write_le_iff {r : ExecutionResponse} {n : Nat} :
    (codec.write r).depth ≤ n + 3 ↔ ∀ e ∈ r.blocks,
      (Json.object e.2.inputs).depth ≤ n ∧ (Json.object e.2.outputs).depth ≤ n := by
  simp only [embeds.depth_le_iff, List.forall_mem_cons, (Codec.embeds_list _).depth_le_iff,
    (Codec.embeds_table _).depth_le_iff, List.forall_mem_map, Artifact.embeds.depth_le_iff,
    FileRef.embeds.depth_le_iff, ExecutionMetadata.embeds.depth_le_iff,
    BlockState.embeds.depth_le_iff, Codec.object_write]
  simp

/-- A response holds the floating-point numbers of the inputs and outputs of its blocks. -/
lemma ExecutionResponse.floatsLegible_write_iff {r : ExecutionResponse} :
    (codec.write r).FloatsLegible ↔ ∀ e ∈ r.blocks,
      (Json.object e.2.inputs).FloatsLegible ∧ (Json.object e.2.outputs).FloatsLegible := by
  simp only [embeds.floatsLegible_iff, List.forall_mem_cons,
    (Codec.embeds_list _).floatsLegible_iff, (Codec.embeds_table _).floatsLegible_iff,
    List.forall_mem_map, Artifact.embeds.floatsLegible_iff, FileRef.embeds.floatsLegible_iff,
    ExecutionMetadata.embeds.floatsLegible_iff, BlockState.embeds.floatsLegible_iff,
    Codec.object_write]
  simp

end Blockflow
