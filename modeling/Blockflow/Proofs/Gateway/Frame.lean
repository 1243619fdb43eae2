import Blockflow.Gateway.Frame
import Blockflow.Proofs.Json.Tagged
import Blockflow.Proofs.Response

/-!
# Frames are read back

Whatever the gateway and its clients tell each other is read as what was written: a frame by the
case that its type tells, an update, the options of a run and an entry of the history by their
fields.  A field that is left out when it has nothing to say is read as saying nothing.

* `ClientFrame.Proper`, `ServerFrame.Proper`, `ExecutionUpdate.Proper`, `ExecutionRecord.Proper` —
  what the fields may hold: sorted objects, numbers of sixty-four bits, points in time.
* `ClientFrame.restores`, `ServerFrame.restores`, `ExecutionUpdate.restores`,
  `ExecutionOptions.restores`, `ExecutionRecord.restores` — the laws of the codecs.
* **`Gateway.messages_read_back`** — all of them, read as values.
-/

namespace Blockflow

open Json

/-! ## Records -/

/-- An update whose objects are canonical. -/
structure ExecutionUpdate.Proper (u : ExecutionUpdate) : Prop where
  inputs : ∀ ms ∈ u.inputs, (Json.object ms).Canonical
  output : ∀ ms ∈ u.output, (Json.object ms).Canonical

lemma ExecutionUpdate.restores : ExecutionUpdate.codec.Restores ExecutionUpdate.Proper :=
  .record
    (.cons (Field.readsBack_required "block_id" Codec.restores_text) <|
      .cons (Field.readsBack_required "status" BlockStatus.restores) <|
      .cons (Field.readsBack_optional "inputs" Codec.restores_object) <|
      .cons (Field.readsBack_optional "output" Codec.restores_object) <|
      .cons (Field.readsBack_optional "error" Codec.restores_text) <|
      .cons (Field.readsBack_optional "error_kind" ErrorKind.restores) Fields.readsBack_done)
    (by decide)
    fun _ hu => ⟨⟨trivial, trivial, fun ms hms => ⟨hu.inputs ms hms, Json.noConfusion⟩,
      fun ms hms => ⟨hu.output ms hms, Json.noConfusion⟩, fun _ _ => ⟨trivial, Json.noConfusion⟩,
      fun _ _ => ⟨trivial, Json.noConfusion⟩, trivial⟩, rfl⟩

lemma ExecutionOptions.restores : ExecutionOptions.codec.Restores fun _ => True :=
  .record
    (.cons (Field.readsBack_optional "execution_id" Codec.restores_text) <|
      .cons (Field.readsBack_optional "workflow_goal" Codec.restores_text) <|
      .cons (Field.readsBack_defaulted "enable_block_checker" false Codec.restores_bool) <|
      .cons (Field.readsBack_optional "checker_model_id" Codec.restores_text) Fields.readsBack_done)
    (by decide)
    fun _ _ => ⟨⟨fun _ _ => ⟨trivial, Json.noConfusion⟩, fun _ _ => ⟨trivial, Json.noConfusion⟩,
      trivial, fun _ _ => ⟨trivial, Json.noConfusion⟩, trivial⟩, rfl⟩

/-- A record whose input is canonical and whose points in time the calendar has, with a proper
response. -/
structure ExecutionRecord.Proper (r : ExecutionRecord) : Prop where
  input : (Json.object r.input).Canonical
  startedAt : r.startedAt.Proper
  completedAt : ∀ t ∈ r.completedAt, t.Proper
  response : ∀ x ∈ r.response, x.Proper

lemma ExecutionRecord.restores : ExecutionRecord.codec.Restores ExecutionRecord.Proper :=
  .record
    (.cons (Field.readsBack_required "id" Codec.restores_text) <|
      .cons (Field.readsBack_required "agent_id" Codec.restores_text) <|
      .cons (Field.readsBack_required "user_id" Codec.restores_text) <|
      .cons (Field.readsBack_required "status" ExecutionStatus.restores) <|
      .cons (Field.readsBack_defaulted "input" [] Codec.restores_object) <|
      .cons (Field.readsBack_required "started_at" Timestamp.restores) <|
      .cons (Field.readsBack_optional "completed_at" Timestamp.restores) <|
      .cons (Field.readsBack_optional "response" ExecutionResponse.restores) Fields.readsBack_done)
    (by decide)
    fun _ hr => ⟨⟨trivial, trivial, trivial, trivial, hr.input, hr.startedAt,
      fun t ht => ⟨hr.completedAt t ht, Json.noConfusion⟩,
      fun x hx => ⟨hr.response x hx, Json.noConfusion⟩, trivial⟩, rfl⟩

/-! ## Frames -/

/-- A frame of a client whose input is canonical. -/
def ClientFrame.Proper : ClientFrame → Prop
  | .executeWorkflow run => (Json.object run.input).Canonical
  | .cancelExecution => True

lemma ClientFrame.restores : ClientFrame.codec.Restores ClientFrame.Proper := by
  refine Codec.restores_of_forall fun f hf => ?_
  cases f with
  | executeWorkflow run =>
      refine Codec.restoresAt_ofFields
        (.cons (Field.readsBack_required "agent_id" Codec.restores_text) <|
          .cons (Field.readsBack_defaulted "input" [] Codec.restores_object) <|
          .cons (Field.readsBack_defaulted "enable_block_checker" false Codec.restores_bool) <|
          .cons (Field.readsBack_optional "checker_model_id" Codec.restores_text)
            Fields.readsBack_done)
        (by decide) rfl ?_ rfl rfl
      exact ⟨trivial, hf, trivial, fun _ _ => ⟨trivial, Json.noConfusion⟩, trivial⟩
  | cancelExecution => exact Codec.restoresAt_bare rfl rfl

/-- A completion with a canonical output and a proper response. -/
structure CompletionFrame.Proper (c : CompletionFrame) : Prop where
  finalOutput : (Json.object c.finalOutput).Canonical
  durationMs : c.durationMs ≤ maxInteger
  response : c.response.Proper

/-- A frame of the gateway whose update or completion is proper. -/
def ServerFrame.Proper : ServerFrame → Prop
  | .executionUpdate _ update => update.Proper
  | .executionComplete completion => completion.Proper
  | .connected | .executionStarted _ | .error _ _ => True

lemma ServerFrame.restores : ServerFrame.codec.Restores ServerFrame.Proper := by
  refine Codec.restores_of_forall fun f hf => ?_
  cases f with
  | connected => exact Codec.restoresAt_bare rfl rfl
  | executionStarted id =>
      refine Codec.restoresAt_ofFields
        (.cons (Field.readsBack_required "execution_id" Codec.restores_text) Fields.readsBack_done)
        (by decide) rfl ?_ rfl rfl
      exact ⟨trivial, trivial⟩
  | executionUpdate id u =>
      refine Codec.restoresAt_ofFields
        (.cons (Field.readsBack_required "execution_id" Codec.restores_text) <|
          .cons (Field.readsBack_required "block_id" Codec.restores_text) <|
          .cons (Field.readsBack_required "status" BlockStatus.restores) <|
          .cons (Field.readsBack_optional "inputs" Codec.restores_object) <|
          .cons (Field.readsBack_optional "output" Codec.restores_object) <|
          .cons (Field.readsBack_optional "error" Codec.restores_text) <|
          .cons (Field.readsBack_optional "error_kind" ErrorKind.restores) Fields.readsBack_done)
        (by decide) rfl ?_ rfl rfl
      exact ⟨trivial, trivial, trivial, fun ms hms => ⟨hf.inputs ms hms, Json.noConfusion⟩,
        fun ms hms => ⟨hf.output ms hms, Json.noConfusion⟩,
        fun _ _ => ⟨trivial, Json.noConfusion⟩, fun _ _ => ⟨trivial, Json.noConfusion⟩, trivial⟩
  | executionComplete c =>
      refine Codec.restoresAt_ofFields
        (.cons (Field.readsBack_required "execution_id" Codec.restores_text) <|
          .cons (Field.readsBack_required "status" ExecutionStatus.restores) <|
          .cons (Field.readsBack_required "final_output" Codec.restores_object) <|
          .cons (Field.readsBack_required "duration_ms" (Codec.restores_natural "u64" le_rfl)) <|
          .cons (Field.readsBack_required "api_response" ExecutionResponse.restores) <|
          .cons (Field.readsBack_optional "error" Codec.restores_text) Fields.readsBack_done)
        (by decide) rfl ?_ rfl rfl
      exact ⟨trivial, trivial, hf.finalOutput, hf.durationMs, hf.response,
        fun _ _ => ⟨trivial, Json.noConfusion⟩, trivial⟩
  | error message kind =>
      refine Codec.restoresAt_ofFields
        (.cons (Field.readsBack_required "error" Codec.restores_text) <|
          .cons (Field.readsBack_optional "kind" ErrorKind.restores) Fields.readsBack_done)
        (by decide) rfl ?_ rfl rfl
      exact ⟨trivial, fun _ _ => ⟨trivial, Json.noConfusion⟩, trivial⟩

/-- **Messages are read back.**  Whatever their fields hold, frames of clients and of the gateway,
updates, options and entries of the history are read from their values as what was written; so the
frame of an update has all that the update says. -/
theorem Gateway.messages_read_back :
    (∀ f : ClientFrame, f.Proper → ClientFrame.codec.ofJson (ClientFrame.codec.write f) = .ok f) ∧
    (∀ f : ServerFrame, f.Proper → ServerFrame.codec.ofJson (ServerFrame.codec.write f) = .ok f) ∧
    (∀ u : ExecutionUpdate, u.Proper →
      ExecutionUpdate.codec.ofJson (ExecutionUpdate.codec.write u) = .ok u) ∧
    (∀ o : ExecutionOptions,
      ExecutionOptions.codec.ofJson (ExecutionOptions.codec.write o) = .ok o) ∧
    (∀ r : ExecutionRecord, r.Proper →
      ExecutionRecord.codec.ofJson (ExecutionRecord.codec.write r) = .ok r) ∧
    ∀ (executionId : String) (u : ExecutionUpdate), u.Proper →
      ServerFrame.codec.ofJson (ServerFrame.codec.write (.ofUpdate executionId u)) =
        .ok (.executionUpdate executionId u) :=
  ⟨fun _ hf => ClientFrame.restores.ofJson hf, fun _ hf => ServerFrame.restores.ofJson hf,
    fun _ hu => ExecutionUpdate.restores.ofJson hu,
    fun _ => ExecutionOptions.restores.ofJson trivial,
    fun _ hr => ExecutionRecord.restores.ofJson hr,
    fun id u hu => ServerFrame.restores.ofJson (x := .executionUpdate id u) hu⟩

/-- A completion with a chart, a file of unknown size and a block that was cut off, and the update
that told of it. -/
theorem Gateway.messages_read_back_cut_off :
    let failed : BlockState :=
      { status := .failed, error := some "cut off", errorKind := some .internal
        startedAt := some ⟨0, 5⟩ }
    let response : ExecutionResponse :=
      { status := .partialFailure
        result := ""
        artifacts := [{ kind := "chart", data := "1,2", sourceBlock := "a" }]
        files := [{ fileId := "f", filename := "f.txt", sourceBlock := "a" }]
        blocks := [("a", { status := .completed, outputs := [("type", .text "chart")] }),
          ("b", failed)]
        metadata := ⟨"run", none, "w", 1, 0, 0, 0, 2, 2, 1, 0⟩ }
    let done : ServerFrame := .executionComplete ⟨"run", .partialFailure, [], 0, response, none⟩
    let update : ExecutionUpdate :=
      { blockId := "b", status := .failed, inputs := some [], errorKind := some .internal }
    done.Proper ∧ ServerFrame.codec.ofJson (ServerFrame.codec.write done) = .ok done ∧
      update.Proper ∧
      ServerFrame.codec.ofJson (ServerFrame.codec.write (.ofUpdate "run" update)) =
        .ok (.executionUpdate "run" update) := by
  intro failed response done update
  obtain ⟨-, hframes, -, -, -, hupdates⟩ := messages_read_back
  have hnothing : (Json.object []).Canonical := ⟨List.Pairwise.nil, trivial⟩
  have hmoment : Timestamp.Proper ⟨0, 5⟩ := ⟨by decide, by decide, by decide⟩
  have hfailed : failed.Proper := ⟨hnothing, hnothing, by simpa [failed] using hmoment, nofun⟩
  have hresponse : response.Proper := by
    refine ⟨?_, by decide, ?_, by constructor <;> decide⟩
    · simp [response, FileRef.Proper]
    · refine List.forall_mem_cons.mpr ⟨⟨hnothing, ?_, nofun, nofun⟩,
        List.forall_mem_singleton.mpr hfailed⟩
      exact ⟨List.pairwise_singleton _ _, trivial, trivial⟩
  have hdone : done.Proper := ⟨hnothing, by decide, hresponse⟩
  have hupdate : update.Proper := ⟨by simpa [update] using hnothing, nofun⟩
  exact ⟨hdone, hframes done hdone, hupdate, hupdates "run" update hupdate⟩

end Blockflow
