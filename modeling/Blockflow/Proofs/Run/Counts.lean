import Blockflow.Proofs.Run.Results
import Blockflow.Proofs.Table
import Blockflow.Response

/-!
# What the numbers about a run count

The numbers of a response are read off three tables that are kept under different keys: the states
by id, the outputs by normalized id, and the blocks of the workflow by position.  They fit together
since both kinds of id are unique, every block comes to one of three ends, and a block delivers
something exactly if it completes.

* `ExecutionResult.count_add_count` — three ends and no other.
* `Run.Delivers` — outputs and statuses go together; **`Run.Delivers.move`**: every change keeps
  them so.
* `Run.stateTable_perm`, `Run.outputTable_perm` — the entries of the tables, by position.
* **`Run.numbers_conclude`** — the numbers in the response of any run.
-/

namespace Blockflow

lemma BlockStatus.isTerminal_iff {b : BlockStatus} :
    b.isTerminal = true ↔ b = .completed ∨ b = .failed ∨ b = .skipped := by
  cases b <;> simp [isTerminal]

/-- Where every block has come to its end, there are three ends to count. -/
lemma ExecutionResult.count_add_count {e : ExecutionResult}
    (h : ∀ x ∈ e.blockStates, x.2.status.isTerminal) :
    e.count .completed + e.count .failed + e.count .skipped = e.blockStates.length := by
  unfold count
  generalize e.blockStates = states at h ⊢
  induction states with
  | nil => rfl
  | cons x states ih =>
      rw [List.forall_mem_cons] at h
      have hrest := ih h.2
      simp only [List.countP_cons, List.length_cons]
      rcases BlockStatus.isTerminal_iff.mp h.1 with hx | hx | hx <;> simp [hx] <;> omega

namespace Run

variable {s : RunSetup} {r r' : Run} {i : Nat}

/-! ## Outputs and statuses -/

/-- **A block delivers its outputs if it completed, and nothing otherwise.** -/
def Delivers (r : Run) : Prop :=
  ∀ i, (r.cell i).output =
    if r.status i = .completed then some (r.cell i).state.outputs else none

lemma delivers_begin (s : RunSetup) (listener : Listener) (cancelled : Bool) :
    Delivers (begin s listener cancelled) := by
  intro i
  rw [status_begin, if_neg (by decide)]
  by_cases hi : i < s.size
  · rw [cell_begin listener cancelled hi]
  · have hnone : (begin s listener cancelled).cells[i]? = none :=
      List.getElem?_eq_none (by simpa [begin, initial, RunSetup.size] using hi)
    rw [cell, hnone]
    rfl

namespace Delivers

/-- What a block that has not completed delivers. -/
lemma output_eq_none (h : Delivers r) (hi : r.status i ≠ .completed) : (r.cell i).output = none :=
  (h i).trans (if_neg hi)

/-- **Output and status are always written together.** -/
lemma move (h : Delivers r) (hmove : Move s r r') : Delivers r' := by
  intro i
  rw [status]
  cases hmove.cellMove i with
  | stays n hc =>
      rw [hc]
      exact h i
  | noted hi e hc =>
      have hrunning : (r.cell i).state.status = .running := hi
      rw [hc, BlockEnd.note_status, hrunning]
      exact h.output_eq_none (by rw [hi]; decide)
  | completed hi outputs hc =>
      rw [hc]
      rfl
  | started hi _ hc | failed hi _ hc | skipped hi hc =>
      rw [hc]
      exact h.output_eq_none (by rw [hi]; decide)

lemma path (h : Delivers r) (hpath : Path s r r') : Delivers r' := by
  induction hpath with
  | refl => exact h
  | tail _ hmove ih => exact ih.move hmove

end Delivers

lemma delivers_after (hs : s.Planned) (listener : Listener) (cancelled : Bool)
    (events : List RunEvent) : Delivers (after s (begin s listener cancelled) events) :=
  (delivers_begin s listener cancelled).path
    (path_after hs events _ (sound_begin hs listener cancelled))

lemma delivers_close (hs : s.Planned) (listener : Listener) (cancelled : Bool)
    (events : List RunEvent) : Delivers (close s (after s (begin s listener cancelled) events)) :=
  (delivers_after hs listener cancelled events).path
    (path_close hs (sound_after hs listener cancelled events).size)

/-! ## Tables -/

lemma map_block (s : RunSetup) : (List.range s.size).map s.block = s.workflow.blocks := by
  refine List.ext_getElem? fun i => ?_
  by_cases hi : i < s.size
  · rw [List.getElem?_map, List.getElem?_range hi, RunSetup.block_mem hi, Option.map_some]
  · have hlength : s.workflow.blocks.length ≤ i := not_lt.mp hi
    rw [List.getElem?_eq_none (by simpa using not_lt.mp hi), List.getElem?_eq_none hlength]

/-- The states of all blocks, each under its id. -/
lemma stateTable_perm (hs : s.Planned) (hsize : r.cells.length = s.size) :
    (stateTable s r).Perm
      ((List.range s.size).map fun i => ((s.block i).id, (r.cell i).state)) := by
  have hentries : (s.workflow.blocks.zip r.cells).map (fun x => (x.1.id, x.2.state)) =
      (List.range s.size).map fun i => ((s.block i).id, (r.cell i).state) := by
    rw [blocks_zip_cells hsize, List.map_map]
    rfl
  rw [stateTable, hentries]
  refine Table.ofList_perm ?_
  rw [List.map_map]
  refine List.Nodup.map_on (fun i hi j hj heq => ?_) List.nodup_range
  exact hs.id_inj (List.mem_range.mp hi) (List.mem_range.mp hj) heq

/-- The ids of the table of states are those of the blocks. -/
lemma keys_stateTable_perm (hs : s.Planned) (hsize : r.cells.length = s.size) :
    (stateTable s r).keys.Perm (s.workflow.blocks.map Block.id) := by
  refine ((stateTable_perm hs hsize).map Prod.fst).trans (List.Perm.of_eq ?_)
  rw [List.map_map, ← map_block s, List.map_map]
  rfl

/-- The completed blocks, in the order of the plan. -/
def completed (s : RunSetup) (r : Run) : List Nat :=
  s.plan.order.filter fun i => r.status i = .completed

/-- Different blocks have different normalized ids. -/
lemma nodup_normalizedIds (hs : s.Planned) :
    ((completed s r).map fun i => (s.block i).normalizedId).Nodup := by
  have hall : (s.plan.order.map fun i => (s.block i).normalizedId).Nodup := by
    have hperm : (s.plan.order.map fun i => (s.block i).normalizedId).Perm
        (s.workflow.blocks.map Block.normalizedId) := by
      rw [← map_block s, List.map_map]
      exact hs.lawful.perm.map _
    exact hperm.nodup_iff.mpr hs.wellFormed.normalizedIds
  exact hall.sublist (List.filter_sublist.map _)

/-- The outputs of the completed blocks, each under its normalized id. -/
lemma outputTable_perm (hs : s.Planned) (h : Delivers r) :
    (outputTable s r).Perm ((completed s r).map fun i =>
      ((s.block i).normalizedId, .object (r.cell i).state.outputs)) := by
  have htable : outputTable s r = Table.ofList ((completed s r).map fun i =>
      ((s.block i).normalizedId, .object (r.cell i).state.outputs)) := by
    rw [outputTable, Table.ofList, completed, List.foldl_map, List.foldl_filter]
    refine List.foldl_ext _ _ [] fun ms i _ => ?_
    rw [h i]
    by_cases hi : r.status i = .completed <;> simp [hi]
  rw [htable]
  refine Table.ofList_perm ?_
  rw [List.map_map]
  exact nodup_normalizedIds hs

/-- The keys of the table of outputs are the normalized ids of the completed blocks. -/
lemma keys_outputTable_perm (hs : s.Planned) (h : Delivers r) :
    (outputTable s r).keys.Perm ((completed s r).map fun i => (s.block i).normalizedId) := by
  refine ((outputTable_perm hs h).map Prod.fst).trans (List.Perm.of_eq ?_)
  rw [List.map_map]
  rfl

/-! ## Numbers -/

/-- How many blocks came to an end. -/
lemma count_conclude (hs : s.Planned) (hsize : r.cells.length = s.size) (status : BlockStatus) :
    (conclude s r).count status =
      (List.range s.size).countP fun i => (close s r).status i = status := by
  have hperm := stateTable_perm hs (length_close hs hsize)
  rw [ExecutionResult.count]
  refine (hperm.countP_eq _).trans ?_
  rw [List.countP_map]
  rfl

/-- As many outputs are delivered as blocks completed. -/
lemma length_output_conclude (hs : s.Planned) (hsize : r.cells.length = s.size)
    (h : Delivers (close s r)) :
    (conclude s r).output.length = (conclude s r).count .completed := by
  have hperm : s.plan.order.Perm (List.range s.size) := hs.lawful.perm
  calc (conclude s r).output.length
      = (completed s (close s r)).length := by
        have hlength := (outputTable_perm hs h).length_eq
        rwa [List.length_map] at hlength
    _ = s.plan.order.countP fun i => (close s r).status i = .completed :=
        List.countP_eq_length_filter.symm
    _ = (conclude s r).count .completed := by rw [count_conclude hs hsize, hperm.countP_eq]

/-- **The numbers about any run fit together**, whatever its blocks came to, in whatever order they
returned, whenever it was cancelled, and whichever blocks were lost:

* every block has exactly one state, which is one of the three ends;
* the blocks that were executed and those that were skipped are all blocks of the workflow, and
  those that failed are among the executed ones;
* the others of them are those with an entry in the output, under the normalized ids of the
  completed blocks. -/
theorem numbers_conclude (hs : s.Planned) (listener : Listener) (cancelled : Bool)
    (events : List RunEvent) (executionId : String) (durationMs : Nat) (policy : ResultPolicy) :
    let e := conclude s (after s (begin s listener cancelled) events)
    let m := (Response.build e s.workflow executionId durationMs policy).metadata
    (∀ x ∈ e.blockStates,
      x.2.status = .completed ∨ x.2.status = .failed ∨ x.2.status = .skipped) ∧
    e.blockStates.keys.Perm (s.workflow.blocks.map Block.id) ∧ e.blockStates.keys.Nodup ∧
    m.blocksTotal = s.workflow.blocks.length ∧
    m.blocksExecuted + m.blocksSkipped = m.blocksTotal ∧
    m.blocksFailed ≤ m.blocksExecuted ∧
    m.blocksExecuted - m.blocksFailed = e.output.length ∧ e.output.keys.Nodup := by
  intro e m
  set last := after s (begin s listener cancelled) events with hlast
  have hsize : last.cells.length = s.size := (sound_after hs listener cancelled events).size
  have hdelivers : Delivers (close s last) := delivers_close hs listener cancelled events
  have hstates : e.blockStates.Perm _ := stateTable_perm hs (length_close hs hsize)
  have hterminal : ∀ x ∈ e.blockStates, x.2.status.isTerminal := by
    intro x hx
    obtain ⟨i, hi, rfl⟩ := List.mem_map.mp (hstates.subset hx)
    exact isTerminal_close hs hsize (List.mem_range.mp hi)
  have hkeys : e.blockStates.keys.Perm (s.workflow.blocks.map Block.id) :=
    keys_stateTable_perm hs (length_close hs hsize)
  have hcount := ExecutionResult.count_add_count hterminal
  have hlength : e.blockStates.length = s.size := by simpa using hstates.length_eq
  have houtput : e.output.length = e.count .completed := length_output_conclude hs hsize hdelivers
  have htotal : m.blocksTotal = s.size := rfl
  have hexecuted : m.blocksExecuted = e.count .completed + e.count .failed := rfl
  have hfailed : m.blocksFailed = e.count .failed := rfl
  have hskipped : m.blocksSkipped = e.count .skipped := rfl
  refine ⟨fun x hx => BlockStatus.isTerminal_iff.mp (hterminal x hx), hkeys,
    hkeys.nodup_iff.mpr hs.wellFormed.ids, rfl, by omega, by omega, by omega, ?_⟩
  exact (keys_outputTable_perm hs hdelivers).nodup_iff.mpr (nodup_normalizedIds hs)

/-- Two blocks in a row; the first one completes, and the second one is lost after the run was
cancelled while it was at work. -/
theorem numbers_conclude_cut_off :
    let events : List RunEvent := [.proceeds, .returns 0 { result := .ok {} }, .joins 0, .proceeds,
      .cancels, .loses 1]
    let e := conclude RunSetup.pipeline
      (after RunSetup.pipeline (begin RunSetup.pipeline {} false) events)
    let m := (Response.build e RunSetup.pipeline.workflow "run" 0 .designatedOutput).metadata
    RunSetup.pipeline.Planned ∧ m.blocksExecuted = 2 ∧ m.blocksFailed = 1 ∧
      m.blocksSkipped = 0 ∧ e.output.length = 1 := by
  intro events e m
  obtain ⟨-, -, -, htotal, hsum, -, houtput, -⟩ :=
    numbers_conclude RunSetup.planned_pipeline {} false events "run" 0 .designatedOutput
  have hexecuted : m.blocksExecuted = 2 := by decide
  have hfailed : m.blocksFailed = 1 := by decide
  have hskipped : m.blocksSkipped = 0 := by
    have hall : m.blocksExecuted + m.blocksSkipped = 2 := hsum.trans htotal
    omega
  have hlength : m.blocksExecuted - m.blocksFailed = e.output.length := houtput
  exact ⟨RunSetup.planned_pipeline, hexecuted, hfailed, hskipped, by omega⟩

end Run

end Blockflow
