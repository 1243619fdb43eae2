import Blockflow.Block.ToolCall
import Blockflow.Proofs.Response
import Blockflow.Proofs.Store.Versions

/-!
# The history tells how runs ended

Runs are written down when they start and when they end, and agents are saved and deleted in
between.  The rows are the records of a history in the form of texts.  A response wraps what its
blocks read and delivered in three levels of its own, so that a text of a response can be written
that nests too deeply to be read: such a run, and every list that it belongs to, is lost.

* `ExecutionResponse.Recoverable`, `ExecutionResponse.Shallow` — responses whose numbers are read
  back, and those that a text can hold; **`ExecutionRow.record_ofRecord`** — what is read of a row.
* `Store.Tells` — the rows are those of a history; **`Store.Tells.getExecution`**,
  **`Store.Tells.listExecutions`** — what is read of it.
* `Store.brief`, `Store.tower` — responses whose block delivers what a tool's text holds, at any
  depth.
* `Store.Entry`, `Store.afterEntries` — starts, ends and calls about agents, in any order.
* **`Store.completed_read_back`** — the end of a run, behind any of them.
-/

namespace Blockflow

open Json

/-! ## Records and their rows -/

namespace ExecutionResponse

/-- A response with numbers that the text layer reads back. -/
def Recoverable (r : ExecutionResponse) : Prop := r.Proper ∧ (codec.write r).FloatsLegible

/-- A response whose blocks read and delivered nothing that nests too deeply for its text. -/
def Shallow (r : ExecutionResponse) : Prop :=
  ∀ e ∈ r.blocks, (Json.object e.2.inputs).depth ≤ 124 ∧ (Json.object e.2.outputs).depth ≤ 124

instance Shallow.decidable (r : ExecutionResponse) : Decidable r.Shallow :=
  inferInstanceAs (Decidable (∀ e ∈ r.blocks,
    (Json.object e.2.inputs).depth ≤ 124 ∧ (Json.object e.2.outputs).depth ≤ 124))

/-- What is read of a stored response. -/
lemma kept_write {r : ExecutionResponse} (h : r.Recoverable) :
    kept codec (codec.write r).compact =
      if r.Shallow then .ok r else .error (.json "recursion limit exceeded") := by
  have hshallow : (codec.write r).depth ≤ 127 ↔ r.Shallow := depth_write_le_iff (n := 124)
  rw [restores.kept h.1 h.2]
  simp only [hshallow]

end ExecutionResponse

namespace ExecutionRecord

/-- A record whose input is read back, and whose response has numbers that are. -/
structure Recoverable (x : ExecutionRecord) : Prop where
  input : (Json.object x.input).Canonical
  floats : (Json.object x.input).FloatsLegible
  depth : (Json.object x.input).depth ≤ 127
  response : ∀ r ∈ x.response, r.Recoverable

/-- A record whose response, if there is one, a text can hold. -/
def Shallow (x : ExecutionRecord) : Prop := ∀ r ∈ x.response, r.Shallow

instance Shallow.decidable (x : ExecutionRecord) : Decidable x.Shallow :=
  inferInstanceAs (Decidable (∀ r ∈ x.response, r.Shallow))

/-- The record of a run that starts. -/
def started (id agentId userId : String) (input : Json.Object) (now : Timestamp) :
    ExecutionRecord :=
  { id, agentId, userId, status := .running, input := stripReserved input, startedAt := now }

/-- The record of a run that ended. -/
def ended (x : ExecutionRecord) (response : ExecutionResponse) (now : Timestamp) :
    ExecutionRecord :=
  { x with status := response.status, response := some response, completedAt := some now }

lemma Recoverable.ended {x : ExecutionRecord} (h : x.Recoverable) {response : ExecutionResponse}
    (hresponse : response.Recoverable) (now : Timestamp) : (x.ended response now).Recoverable where
  input := h.input
  floats := h.floats
  depth := h.depth
  response := by
    rintro r ⟨⟩
    exact hresponse

end ExecutionRecord

/-- **What is read of a row.** -/
theorem ExecutionRow.record_ofRecord {x : ExecutionRecord} (h : x.Recoverable) :
    (ofRecord x).record =
      if x.Shallow then .ok x else .error (.json "recursion limit exceeded") := by
  have hinput : kept Codec.object (Json.object x.input).compact = .ok x.input := by
    rw [← Codec.object_write, Codec.restores_object.kept h.input (by simpa using h.floats),
      if_pos (by simpa using h.depth)]
  obtain ⟨id, agentId, userId, status, input, startedAt, completedAt, response⟩ := x
  unfold record ofRecord
  dsimp only at hinput ⊢
  rw [hinput]
  cases response with
  | none => rfl
  | some r =>
      have hresponse := ExecutionResponse.kept_write (h.response r rfl)
      have hshallow : ExecutionRecord.Shallow ⟨id, agentId, userId, status, input, startedAt,
          completedAt, some r⟩ ↔ r.Shallow := by
        simp [ExecutionRecord.Shallow]
      dsimp only [Option.map_some, kept?]
      rw [hresponse]
      simp only [hshallow]
      split_ifs <;> rfl

namespace Store

/-! ## Histories -/

/-- The rows of the store are the records of a history, and no two runs have one id. -/
structure Tells (s : Store) (history : List ExecutionRecord) : Prop where
  rows : s.executions = history.map ExecutionRow.ofRecord
  recoverable : ∀ x ∈ history, x.Recoverable
  distinct : (history.map ExecutionRecord.id).Nodup

/-- The latest runs of an agent, the latest first. -/
def latest (history : List ExecutionRecord) (agentId : String) (limit : Nat) :
    List ExecutionRecord :=
  ((history.filter fun x => x.agentId = agentId).reverse.mergeSort fun a b =>
    b.startedAt.notAfter a.startedAt).take limit

variable {s : Store} {history : List ExecutionRecord}

lemma mem_of_mem_latest {x : ExecutionRecord} {agentId : String} {limit : Nat}
    (h : x ∈ latest history agentId limit) : x ∈ history ∧ x.agentId = agentId := by
  have hmem := List.mem_of_mem_take h
  rw [List.mem_mergeSort, List.mem_reverse, List.mem_filter] at hmem
  exact ⟨hmem.1, of_decide_eq_true hmem.2⟩

/-- A run is among the latest ones of its agent when enough of them are asked for. -/
lemma mem_latest {x : ExecutionRecord} (hx : x ∈ history) {limit : Nat}
    (hlimit : history.length ≤ limit) : x ∈ latest history x.agentId limit := by
  have hlength := (List.length_filter_le (fun y => decide (y.agentId = x.agentId)) history).trans
    hlimit
  rw [latest, List.take_of_length_le (by simpa using hlength), List.mem_mergeSort,
    List.mem_reverse, List.mem_filter]
  exact ⟨hx, decide_eq_true rfl⟩

/-- A run is read by its id. -/
lemma Tells.getExecution_of_mem (h : s.Tells history) {x : ExecutionRecord} (hx : x ∈ history) :
    s.getExecution x.id =
      if x.Shallow then .ok (some x) else .error (.json "recursion limit exceeded") := by
  have hfind : s.executions.find? (fun r => decide (r.id = x.id)) = some (.ofRecord x) := by
    rw [h.rows, List.find?_map]
    exact congrArg (Option.map ExecutionRow.ofRecord) (find?_of_nodup h.distinct hx)
  unfold getExecution
  rw [hfind]
  dsimp only
  rw [ExecutionRow.record_ofRecord (h.recoverable x hx)]
  split_ifs <;> rfl

lemma Tells.getExecution_of_notMem (h : s.Tells history) {id : String}
    (hid : id ∉ history.map ExecutionRecord.id) : s.getExecution id = .ok none := by
  have hfind : s.executions.find? (fun r => decide (r.id = id)) = none := by
    rw [h.rows, List.find?_map, Option.map_eq_none_iff, List.find?_eq_none]
    intro x hx
    have hne : x.id ≠ id := fun heq => hid (heq ▸ List.mem_map_of_mem hx)
    simp [ExecutionRow.ofRecord, hne]
  unfold getExecution
  rw [hfind]

/-- Records are read until one of them is lost. -/
lemma mapM_record {records : List ExecutionRecord} (h : ∀ x ∈ records, x.Recoverable) :
    (records.map ExecutionRow.ofRecord).mapM ExecutionRow.record =
      if ∀ x ∈ records, x.Shallow then .ok records
      else .error (.json "recursion limit exceeded") := by
  induction records with
  | nil => rfl
  | cons x records ih =>
      rw [List.forall_mem_cons] at h
      rw [List.map_cons, List.mapM_cons, ExecutionRow.record_ofRecord h.1, ih h.2]
      by_cases hx : x.Shallow
      · by_cases hrecords : ∀ y ∈ records, y.Shallow
        · rw [if_pos hx, if_pos hrecords, if_pos (List.forall_mem_cons.mpr ⟨hx, hrecords⟩)]
          rfl
        · rw [if_pos hx, if_neg hrecords,
            if_neg fun hall => hrecords (List.forall_mem_cons.mp hall).2]
          rfl
      · rw [if_neg hx, if_neg fun hall => hx (List.forall_mem_cons.mp hall).1]
        rfl

/-- The latest runs are read if none of them is lost. -/
lemma Tells.listExecutions (h : s.Tells history) (agentId : String) (limit : Nat) :
    s.listExecutions agentId limit =
      if ∀ x ∈ latest history agentId limit, x.Shallow then .ok (latest history agentId limit)
      else .error (.json "recursion limit exceeded") := by
  have hfilter : (s.executions.filter fun r => decide (r.agentId = agentId)) =
      (history.filter fun x => decide (x.agentId = agentId)).map ExecutionRow.ofRecord := by
    rw [h.rows, List.filter_map]
    rfl
  have hsort := List.map_mergeSort (f := ExecutionRow.ofRecord)
    (r := fun a b => b.startedAt.notAfter a.startedAt)
    (s := fun a b => b.startedAt.notAfter a.startedAt)
    (l := (history.filter fun x => decide (x.agentId = agentId)).reverse) fun _ _ _ _ => rfl
  have hrecoverable : ∀ x ∈ latest history agentId limit, x.Recoverable :=
    fun x hx => h.recoverable x (mem_of_mem_latest hx).1
  unfold Store.listExecutions
  dsimp only
  rw [hfilter, ← List.map_reverse, ← hsort, ← List.map_take]
  exact mapM_record hrecoverable

/-! ## Starts, ends and calls about agents -/

/-- A run that starts is the last of the history. -/
lemma Tells.createExecution (h : s.Tells history) {id agentId userId : String}
    {input : Json.Object} {now : Timestamp} (hfresh : id ∉ history.map ExecutionRecord.id)
    (hinput : (ExecutionRecord.started id agentId userId input now).Recoverable) :
    (s.createExecution id agentId userId input now).1.Tells
      (history ++ [.started id agentId userId input now]) where
  rows := by
    rw [List.map_append, ← h.rows]
    rfl
  recoverable := by
    intro x hx
    rcases List.mem_append.mp hx with hx | hx
    · exact h.recoverable x hx
    · obtain rfl := List.mem_singleton.mp hx
      exact hinput
  distinct := by
    rw [List.map_append, List.map_singleton]
    refine List.Nodup.append h.distinct (List.nodup_singleton _) ?_
    simpa [ExecutionRecord.started] using hfresh

/-- The history in which a run ended. -/
def finished (history : List ExecutionRecord) (id : String) (response : ExecutionResponse)
    (now : Timestamp) : List ExecutionRecord :=
  history.map fun x => if x.id = id then x.ended response now else x

lemma map_id_finished (history : List ExecutionRecord) (id : String)
    (response : ExecutionResponse) (now : Timestamp) :
    (finished history id response now).map ExecutionRecord.id = history.map ExecutionRecord.id := by
  rw [finished, List.map_map]
  refine List.map_congr_left fun x _ => ?_
  dsimp only [Function.comp]
  split_ifs <;> rfl

/-- The end of a run that the history tells of is written down, and nothing else. -/
lemma Tells.completeExecution (h : s.Tells history) {id : String} {response : ExecutionResponse}
    {now : Timestamp} {s' : Store} (hresponse : response.Recoverable)
    (hcomplete : s.completeExecution id response now = .ok s') :
    (∃ x ∈ history, x.id = id) ∧ s'.agents = s.agents ∧
      s'.Tells (finished history id response now) := by
  unfold Store.completeExecution at hcomplete
  split_ifs at hcomplete with hknown
  obtain rfl := Except.ok.inj hcomplete
  refine ⟨?_, rfl, ?_, ?_, ?_⟩
  · rw [h.rows, List.any_map, List.any_eq_true] at hknown
    obtain ⟨x, hx, hid⟩ := hknown
    exact ⟨x, hx, of_decide_eq_true hid⟩
  · rw [finished, h.rows, List.map_map, List.map_map]
    refine List.map_congr_left fun x _ => ?_
    dsimp only [Function.comp]
    by_cases hx : x.id = id <;> simp [hx, ExecutionRow.ofRecord, ExecutionRecord.ended]
  · intro y hy
    obtain ⟨x, hx, rfl⟩ := List.mem_map.mp hy
    split_ifs
    · exact (h.recoverable x hx).ended hresponse now
    · exact h.recoverable x hx
  · rw [map_id_finished]
    exact h.distinct

/-- The run that ended is read with its response, if that is not lost; asked for enough runs, it is
among the latest of its agent. -/
lemma Tells.getExecution_ended (h : s.Tells history) {id : String} {response : ExecutionResponse}
    {now : Timestamp} {s' : Store} (hresponse : response.Recoverable)
    (hcomplete : s.completeExecution id response now = .ok s') :
    ∃ x ∈ history, x.id = id ∧
      (s'.getExecution id = if response.Shallow then .ok (some (x.ended response now))
        else .error (.json "recursion limit exceeded")) ∧
      ∀ limit, history.length ≤ limit →
        x.ended response now ∈ latest (finished history id response now) x.agentId limit := by
  obtain ⟨⟨x, hx, rfl⟩, -, htells⟩ := h.completeExecution hresponse hcomplete
  have hmem : x.ended response now ∈ finished history x.id response now :=
    List.mem_map.mpr ⟨x, hx, if_pos rfl⟩
  have hshallow : (x.ended response now).Shallow ↔ response.Shallow := by
    simp [ExecutionRecord.Shallow, ExecutionRecord.ended]
  refine ⟨x, hx, rfl, ?_, fun limit hlimit => ?_⟩
  · have hget := htells.getExecution_of_mem hmem
    simp only [hshallow] at hget
    exact hget
  · exact mem_latest hmem (by rwa [finished, List.length_map])

/-- The runs of its agent are lost with it. -/
lemma Tells.listExecutions_lost (h : s.Tells history) {x : ExecutionRecord} {agentId : String}
    {limit : Nat} (hx : x ∈ latest history agentId limit) (hdeep : ¬ x.Shallow) :
    s.listExecutions agentId limit = .error (.json "recursion limit exceeded") := by
  rw [h.listExecutions, if_neg fun hall => hdeep (hall x hx)]

/-- A run that did not end is read as before. -/
lemma Tells.getExecution_finished (h : s.Tells history) {id other : String}
    {response : ExecutionResponse} {now : Timestamp} {s' : Store}
    (h' : s'.Tells (finished history id response now)) (hne : other ≠ id) :
    s'.getExecution other = s.getExecution other := by
  by_cases hother : other ∈ history.map ExecutionRecord.id
  · obtain ⟨x, hx, rfl⟩ := List.mem_map.mp hother
    have hx' : x ∈ finished history id response now :=
      List.mem_map.mpr ⟨x, hx, if_neg hne⟩
    rw [h.getExecution_of_mem hx, h'.getExecution_of_mem hx']
  · rw [h.getExecution_of_notMem hother,
      h'.getExecution_of_notMem (by rwa [map_id_finished])]

/-- The runs of an agent whose run did not end. -/
lemma latest_finished_of_ne {id agentId : String} (response : ExecutionResponse) (now : Timestamp)
    (limit : Nat) (h : ∀ x ∈ history, x.id = id → x.agentId ≠ agentId) :
    latest (finished history id response now) agentId limit = latest history agentId limit := by
  have hfilter : (finished history id response now).filter (fun x => decide (x.agentId = agentId)) =
      history.filter fun x => decide (x.agentId = agentId) := by
    induction history with
    | nil => rfl
    | cons x history ih =>
        rw [List.forall_mem_cons] at h
        rw [finished, List.map_cons, ← finished]
        by_cases hid : x.id = id
        · have hother : decide (x.agentId = agentId) = false := decide_eq_false (h.1 hid)
          have hother' : decide ((x.ended response now).agentId = agentId) = false := hother
          simp only [if_pos hid, List.filter_cons, hother, hother', Bool.false_eq_true, if_false,
            ih h.2]
        · rw [if_neg hid, List.filter_cons, List.filter_cons, ih h.2]
  rw [latest, hfilter, latest]

/-- A call about agents at most takes the runs of an agent away. -/
lemma executions_perform (s : Store) (c : Call) :
    (s.perform c).1.executions = s.executions ∨
      ∃ id, (s.perform c).1.executions = s.executions.filter fun r => r.agentId ≠ id := by
  cases c with
  | save a =>
      left
      rw [perform]
      cases hsave : s.saveAgent a with
      | error e => rfl
      | ok r =>
          obtain ⟨s', saved⟩ := r
          obtain ⟨rfl, -⟩ := saveAgent_eq_ok hsave
          exact executions_putAgent s _
  | get id user =>
      left
      rw [perform]
      cases s.getAgent id user <;> rfl
  | list user =>
      left
      rw [perform]
      cases s.listAgents user <;> rfl
  | delete id user =>
      rw [perform, deleteAgent]
      split_ifs
      · exact .inr ⟨id, rfl⟩
      · exact .inl rfl

lemma Tells.perform (h : s.Tells history) (c : Call) :
    ∃ rest, rest.Sublist history ∧ (s.perform c).1.Tells rest := by
  rcases executions_perform s c with hsame | ⟨id, hfilter⟩
  · exact ⟨history, List.Sublist.refl _, hsame.trans h.rows, h.recoverable, h.distinct⟩
  · refine ⟨history.filter fun x => x.agentId ≠ id, List.filter_sublist, ?_, ?_, ?_⟩
    · rw [hfilter, h.rows, List.filter_map]
      rfl
    · exact fun x hx => h.recoverable x (List.mem_filter.mp hx).1
    · exact h.distinct.sublist (List.filter_sublist.map _)

/-! ## What a tool answered -/

/-- A response of one block. -/
def brief (outputs : Json.Object) : ExecutionResponse :=
  { status := .completed, result := "",
    blocks := [("b", { status := .completed, outputs })],
    metadata :=
      { executionId := "", workflowId := "", workflowVersion := 1, durationMs := 0,
        inputTokens := 0, outputTokens := 0, blocksTotal := 1, blocksExecuted := 1,
        blocksFailed := 0, blocksSkipped := 0 } }

lemma recoverable_brief {outputs : Json.Object} (h : (Json.object outputs).Canonical)
    (hfloats : (Json.object outputs).FloatsLegible) : (brief outputs).Recoverable := by
  have hempty : (Json.object []).Canonical := ⟨List.Pairwise.nil, trivial⟩
  refine ⟨⟨by simp [brief], List.pairwise_singleton _ _, ?_, ?_⟩,
    ExecutionResponse.floatsLegible_write_iff.mpr ?_⟩
  · intro e he
    obtain rfl := List.mem_singleton.mp he
    exact ⟨hempty, h, by simp, by simp⟩
  · constructor <;> simp [brief, maxInteger]
  · intro e he
    obtain rfl := List.mem_singleton.mp he
    exact ⟨floatsLegible_object_iff.mpr (by simp), hfloats⟩

lemma shallow_brief_iff {outputs : Json.Object} :
    (brief outputs).Shallow ↔ (Json.object outputs).depth ≤ 124 := by
  simp [ExecutionResponse.Shallow, brief, depth, depthMembers]

/-- An array in an array in an array, and so on. -/
def tower : Nat → Json
  | 0 => .array []
  | n + 1 => .array [tower n]

lemma depth_tower (n : Nat) : (tower n).depth = n + 1 := by
  induction n with
  | zero => rfl
  | succ n ih => simp [tower, depth, depthItems, ih]

lemma canonical_tower (n : Nat) : (tower n).Canonical := by
  induction n with
  | zero => trivial
  | succ n ih => exact ⟨ih, trivial⟩

lemma floatsLegible_tower (n : Nat) : (tower n).FloatsLegible := by
  induction n with
  | zero => exact floatsLegible_array_iff.mpr (by simp)
  | succ n ih => exact floatsLegible_array_iff.mpr (by simpa using ih)

/-- What a tool block makes of the text of arrays that a text can hold. -/
lemma outputs_tower {n : Nat} (h : n < 127) :
    ToolBlock.outputs (tower n).compact =
      [("data", tower n), ("result", .text (tower n).compact)] := by
  have hdecode : Codec.json.decode (tower n).compact = .ok (tower n) := by
    have hread := Codec.restores_json.decode (canonical_tower n) (floatsLegible_tower n)
    rwa [if_pos (by simp [Codec.json, depth_tower]; omega)] at hread
  have hparse : Json.parse? (tower n).compact = some (tower n) := by
    rw [Json.parse?, Json.parse, Codec.ofText, hdecode]
    rfl
  rw [ToolBlock.outputs, hparse]
  cases n <;> rfl

/-- The arrays that a tool's text holds are read back as long as they nest three levels less than a
text may. -/
lemma shallow_tower_iff {n : Nat} (h : n < 127) :
    (brief (ToolBlock.outputs (tower n).compact)).Shallow ↔ n < 123 := by
  rw [shallow_brief_iff, outputs_tower h]
  simp [depth, depthMembers, depth_tower]
  omega

lemma recoverable_tower {n : Nat} (h : n < 127) :
    (brief (ToolBlock.outputs (tower n).compact)).Recoverable := by
  have hkeys : ("data" : String) < "result" := by decide
  rw [outputs_tower h]
  refine recoverable_brief ⟨?_, canonical_tower n, trivial, trivial⟩
    (floatsLegible_object_iff.mpr ?_)
  · exact List.pairwise_pair.mpr hkeys
  · simp [floatsLegible_tower n, Flat.floatsLegible (v := .text (tower n).compact) trivial]

/-- A floating-point number whose text is read as the one below it. -/
def drifting : Json := (Json.parse? "9.342002950217046e-29").getD .null

lemma recoverable_started (id agentId userId : String) (now : Timestamp) :
    (ExecutionRecord.started id agentId userId [] now).Recoverable where
  input := ⟨List.Pairwise.nil, trivial⟩
  floats := floatsLegible_object_iff.mpr (by simp [ExecutionRecord.started, stripReserved])
  depth := by simp [ExecutionRecord.started, stripReserved, Json.depth, depthMembers]
  response := by simp [ExecutionRecord.started]

/-! ## Any number of entries -/

/-- Something that is written down. -/
inductive Entry where
  | start (id agentId userId : String) (input : Json.Object) (now : Timestamp)
  | finish (id : String) (response : ExecutionResponse) (now : Timestamp)
  | call (call : Call)

namespace Entry

/-- An entry of values that are read back: an input as it is received, and a response. -/
def Recoverable : Entry → Prop
  | .start id agentId userId input now =>
    (ExecutionRecord.started id agentId userId input now).Recoverable
  | .finish _ response _ => response.Recoverable
  | .call _ => True

/-- An entry whose response, if it has one, a text can hold. -/
def Shallow : Entry → Prop
  | .finish _ response _ => response.Shallow
  | _ => True

/-- The id of the run that an entry starts. -/
def startedId? : Entry → Option String
  | .start id .. => some id
  | _ => none

end Entry

/-- The store after an entry; the end of a run that is not known is refused. -/
def enter (s : Store) : Entry → Store
  | .start id agentId userId input now => (s.createExecution id agentId userId input now).1
  | .finish id response now => (s.completeExecution id response now).toOption.getD s
  | .call c => (s.perform c).1

/-- The store after entries. -/
def afterEntries (entries : List Entry) : Store := entries.foldl enter {}

/-- Entries that a record comes from. -/
structure Sources (entries : List Entry) (x : ExecutionRecord) : Prop where
  start : ∃ input, .start x.id x.agentId x.userId input x.startedAt ∈ entries ∧
    x.input = stripReserved input
  finish : ∀ r ∈ x.response, ∃ now, .finish x.id r now ∈ entries

variable {entries : List Entry} {x : ExecutionRecord}

lemma Sources.mono (h : Sources entries x) {more : List Entry} (hsubset : entries ⊆ more) :
    Sources more x where
  start := by
    obtain ⟨input, hstart, hinput⟩ := h.start
    exact ⟨input, hsubset hstart, hinput⟩
  finish r hr := by
    obtain ⟨now, hfinish⟩ := h.finish r hr
    exact ⟨now, hsubset hfinish⟩

lemma Sources.startedId_mem (h : Sources entries x) :
    x.id ∈ entries.filterMap Entry.startedId? := by
  obtain ⟨input, hstart, -⟩ := h.start
  exact List.mem_filterMap.mpr ⟨_, hstart, rfl⟩

/-- What one entry makes of a history and of where its records come from. -/
lemma Tells.enter (h : s.Tells history) (hsources : ∀ x ∈ history, Sources entries x) {e : Entry}
    (he : e.Recoverable)
    (hfresh : ∀ id ∈ e.startedId?, id ∉ entries.filterMap Entry.startedId?) :
    ∃ next, (s.enter e).Tells next ∧ ∀ x ∈ next, Sources (entries ++ [e]) x := by
  have hmore : entries ⊆ entries ++ [e] := List.subset_append_left _ _
  have hmem : e ∈ entries ++ [e] := List.mem_append_right _ (List.mem_singleton_self e)
  cases e with
  | start id agentId userId input now =>
      have hnew : id ∉ history.map ExecutionRecord.id := by
        intro hid
        obtain ⟨x, hx, rfl⟩ := List.mem_map.mp hid
        exact hfresh x.id rfl (hsources x hx).startedId_mem
      refine ⟨_, h.createExecution hnew he, fun x hx => ?_⟩
      rcases List.mem_append.mp hx with hx | hx
      · exact (hsources x hx).mono hmore
      · obtain rfl := List.mem_singleton.mp hx
        exact ⟨⟨input, hmem, rfl⟩, by simp [ExecutionRecord.started]⟩
  | finish id response now =>
      cases hcomplete : s.completeExecution id response now with
      | error e =>
          have hsame : s.enter (.finish id response now) = s := by
            rw [Store.enter, hcomplete]
            rfl
          rw [hsame]
          exact ⟨history, h, fun x hx => (hsources x hx).mono hmore⟩
      | ok s' =>
          have hnext : s.enter (.finish id response now) = s' := by
            rw [Store.enter, hcomplete]
            rfl
          obtain ⟨-, -, htells⟩ := h.completeExecution he hcomplete
          rw [hnext]
          refine ⟨_, htells, fun x hx => ?_⟩
          obtain ⟨y, hy, rfl⟩ := List.mem_map.mp hx
          have hbefore := (hsources y hy).mono hmore
          split_ifs with hid
          · subst hid
            refine ⟨hbefore.start, ?_⟩
            rintro r ⟨⟩
            exact ⟨now, hmem⟩
          · exact hbefore
  | call c =>
      obtain ⟨rest, hsublist, hrest⟩ := h.perform c
      exact ⟨rest, hrest, fun x hx => (hsources x (hsublist.subset hx)).mono hmore⟩

/-- **A store after entries tells a history that comes from them.** -/
theorem exists_tells_afterEntries (hentries : ∀ e ∈ entries, e.Recoverable)
    (hdistinct : (entries.filterMap Entry.startedId?).Nodup) :
    ∃ history, (afterEntries entries).Tells history ∧ ∀ x ∈ history, Sources entries x := by
  induction entries using List.reverseRecOn with
  | nil => exact ⟨[], ⟨rfl, by simp, List.nodup_nil⟩, by simp⟩
  | append_singleton entries e ih =>
      rw [List.filterMap_append, List.nodup_append] at hdistinct
      obtain ⟨hbefore, -, hfresh⟩ := hdistinct
      obtain ⟨history, htells, hsources⟩ :=
        ih (fun e he => hentries e (List.mem_append_left _ he)) hbefore
      rw [afterEntries, List.foldl_append, ← afterEntries]
      refine htells.enter hsources
        (hentries e (List.mem_append_right _ (List.mem_singleton_self e))) fun id hid hknown => ?_
      exact hfresh id hknown id
        (List.mem_filterMap.mpr ⟨e, List.mem_singleton_self e, hid⟩) rfl

lemma Sources.shallow (h : Sources entries x) (hentries : ∀ e ∈ entries, e.Shallow) :
    x.Shallow := by
  intro r hr
  obtain ⟨now, hfinish⟩ := h.finish r hr
  exact hentries _ hfinish

/-- **The end of a run is read as it was written down, unless its response nests too deeply.**  A
response that does is lost, with every list of its agent's runs that it is in; other runs are read
as before. -/
theorem completed_read_back (hentries : ∀ e ∈ entries, e.Recoverable)
    (hdistinct : (entries.filterMap Entry.startedId?).Nodup) {id : String}
    {response : ExecutionResponse} {now : Timestamp} {s' : Store}
    (hresponse : response.Recoverable)
    (hcomplete : (afterEntries entries).completeExecution id response now = .ok s') :
    ∃ agentId userId input time, .start id agentId userId input time ∈ entries ∧
      let record := (ExecutionRecord.started id agentId userId input time).ended response now
      (response.Shallow → s'.getExecution id = .ok (some record) ∧
        ((∀ e ∈ entries, e.Shallow) → ∀ limit, (afterEntries entries).executions.length ≤ limit →
          ∃ records, s'.listExecutions agentId limit = .ok records ∧ record ∈ records)) ∧
      (¬ response.Shallow →
        s'.getExecution id = .error (.json "recursion limit exceeded") ∧
        ∀ limit, (afterEntries entries).executions.length ≤ limit →
          s'.listExecutions agentId limit = .error (.json "recursion limit exceeded")) ∧
      (∀ other, other ≠ id →
        s'.getExecution other = (afterEntries entries).getExecution other) ∧
      (∀ agent limit, agent ≠ agentId →
        s'.listExecutions agent limit = (afterEntries entries).listExecutions agent limit) ∧
      s'.agents = (afterEntries entries).agents := by
  obtain ⟨history, htells, hsources⟩ := exists_tells_afterEntries hentries hdistinct
  obtain ⟨-, hagents, htells'⟩ := htells.completeExecution hresponse hcomplete
  obtain ⟨x, hx, rfl, hget, hlatest⟩ := htells.getExecution_ended hresponse hcomplete
  obtain ⟨input, hstart, hinput⟩ := (hsources x hx).start
  have hrecord : x.ended response now =
      (ExecutionRecord.started x.id x.agentId x.userId input x.startedAt).ended response now := by
    simp [ExecutionRecord.ended, ExecutionRecord.started, hinput]
  have hlength : (afterEntries entries).executions.length = history.length := by
    rw [htells.rows, List.length_map]
  refine ⟨x.agentId, x.userId, input, x.startedAt, hstart, ?_⟩
  dsimp only
  rw [← hrecord, hlength]
  refine ⟨fun hr => ⟨by rw [hget, if_pos hr], fun hall limit hlimit => ?_⟩,
    fun hr => ⟨by rw [hget, if_neg hr], fun limit hlimit => ?_⟩,
    fun other hne => htells.getExecution_finished htells' hne, fun agent limit hne => ?_, hagents⟩
  · -- the other records come from the entries, as their responses do
    have hlisted : ∀ y ∈ latest (finished history x.id response now) x.agentId limit,
        y.Shallow := by
      intro y hy
      obtain ⟨z, hz, rfl⟩ := List.mem_map.mp (mem_of_mem_latest hy).1
      split_ifs
      · rintro r ⟨⟩
        exact hr
      · exact (hsources z hz).shallow hall
    exact ⟨_, by rw [htells'.listExecutions, if_pos hlisted], hlatest limit hlimit⟩
  · exact htells'.listExecutions_lost (hlatest limit hlimit) fun hall => hr (hall response rfl)
  · have hother : ∀ y ∈ history, y.id = x.id → y.agentId ≠ agent := by
      intro y hy heq
      rw [List.inj_on_of_nodup_map htells.distinct hy hx heq]
      exact hne.symm
    rw [htells'.listExecutions, htells.listExecutions,
      latest_finished_of_ne response now limit hother]

theorem completed_read_back_brief :
    let entries : List Entry := [.start "run" "a" "ann" [] ⟨0, 0⟩, .call (.list "ann"),
      .start "later" "a" "ann" [] ⟨5, 0⟩,
      .finish "later" (brief [("n", .number (.float (.ofInt 2)))]) ⟨6, 0⟩]
    let response := brief (ToolBlock.outputs (tower 122).compact)
    (∀ e ∈ entries, e.Recoverable) ∧ (entries.filterMap Entry.startedId?).Nodup ∧
      response.Recoverable ∧
      ∃ s', (afterEntries entries).completeExecution "run" response ⟨7, 0⟩ = .ok s' ∧
        ∃ record records, record.response = some response ∧ record.status = .completed ∧
          s'.getExecution "run" = .ok (some record) ∧
          s'.listExecutions "a" 10 = .ok records ∧ record ∈ records := by
  intro entries response
  have hfloat : (brief [("n", .number (.float (.ofInt 2)))]).Recoverable := by
    have hfinite : (Binary.ofInt 2 : Double).isFinite = true := by decide +kernel
    have hlegible : (Number.float (.ofInt 2)).Legible := by decide +kernel
    refine recoverable_brief ⟨List.pairwise_singleton _ _, hfinite, trivial⟩ ?_
    intro x hx
    obtain rfl : x = .ofInt 2 := by simpa [numbers, numbersMembers] using hx
    exact hlegible
  have hentries : ∀ e ∈ entries, e.Recoverable := by
    simp only [entries, List.forall_mem_cons]
    exact ⟨recoverable_started .., trivial, recoverable_started .., hfloat, by simp⟩
  have hdistinct : (entries.filterMap Entry.startedId?).Nodup := by decide
  have hresponse : response.Recoverable := recoverable_tower (by decide)
  have hshallow : response.Shallow := (shallow_tower_iff (by decide)).mpr (by decide)
  have hknown : (afterEntries entries).executions.any (fun r => r.id = "run") = true := by
    decide +kernel
  obtain ⟨s', hcomplete⟩ : ∃ s', (afterEntries entries).completeExecution "run" response ⟨7, 0⟩ =
      .ok s' := ⟨_, if_pos hknown⟩
  obtain ⟨agentId, userId, input, time, hstart, hread, -⟩ :=
    completed_read_back hentries hdistinct hresponse hcomplete
  obtain ⟨hget, hlist⟩ := hread hshallow
  obtain ⟨rfl, -⟩ : agentId = "a" ∧ userId = "ann" ∧ input = [] ∧ time = ⟨0, 0⟩ := by
    simpa [entries] using hstart
  have hall : ∀ e ∈ entries, e.Shallow := by
    simp only [entries, List.forall_mem_cons]
    exact ⟨trivial, trivial, trivial, shallow_brief_iff.mpr (by decide), by simp⟩
  obtain ⟨records, hrecords, hmem⟩ := hlist hall 10 (by decide +kernel)
  exact ⟨hentries, hdistinct, hresponse, s', hcomplete, _, records, rfl, rfl, hget, hrecords, hmem⟩

/-- A run with a floating-point number that is not read back, and a run whose tool answered with
arrays that its response cannot hold: the first response is changed, and the second one lost. -/
theorem completed_changed_and_lost :
    (((afterEntries [.start "run" "a" "ann" [] ⟨0, 0⟩,
          .finish "run" (brief [("n", drifting)]) ⟨1, 0⟩]).getExecution "run").toOption.any
        fun found => found.bind ExecutionRecord.response != some (brief [("n", drifting)])) =
        true ∧
      Table.get? (ToolBlock.outputs (tower 123).compact) "data" = some (tower 123) ∧
      ∃ s', (afterEntries [.start "run" "a" "ann" [] ⟨0, 0⟩]).completeExecution "run"
          (brief (ToolBlock.outputs (tower 123).compact)) ⟨1, 0⟩ = .ok s' ∧
        s'.getExecution "run" = .error (.json "recursion limit exceeded") ∧
        s'.listExecutions "a" 10 = .error (.json "recursion limit exceeded") := by
  have hdeep := mt (shallow_tower_iff (by decide)).mp (by decide : ¬ 123 < 123)
  have hresponse := recoverable_tower (by decide : 123 < 127)
  have hdata : Table.get? (ToolBlock.outputs (tower 123).compact) "data" = some (tower 123) := by
    rw [outputs_tower (by decide)]
    rfl
  have hempty : Tells {} [] := ⟨rfl, by simp, List.nodup_nil⟩
  have htells := hempty.createExecution List.not_mem_nil
    (recoverable_started "run" "a" "ann" ⟨0, 0⟩)
  obtain ⟨s', hcomplete⟩ : ∃ s', (afterEntries [.start "run" "a" "ann" [] ⟨0, 0⟩]).completeExecution
      "run" (brief (ToolBlock.outputs (tower 123).compact)) ⟨1, 0⟩ = .ok s' := ⟨_, if_pos rfl⟩
  obtain ⟨-, -, htells'⟩ := htells.completeExecution hresponse hcomplete
  obtain ⟨x, hx, -, hget, hlatest⟩ := htells.getExecution_ended hresponse hcomplete
  obtain rfl := List.mem_singleton.mp hx
  exact ⟨by decide +kernel, hdata, s', hcomplete, by rw [hget, if_neg hdeep],
    htells'.listExecutions_lost (hlatest 10 (by decide)) fun hall => hdeep (hall _ rfl)⟩

end Store

end Blockflow
