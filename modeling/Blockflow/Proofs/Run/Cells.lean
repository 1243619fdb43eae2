import Blockflow.Proofs.Plan
import Blockflow.Run

/-!
# What is written into the cells of a run

Every change of a run's cells goes through `Run.modifyCell` at one position.  Here is what the
operations built from it leave in that cell, that they leave the others alone, and what skipping
a list of blocks does.  Nothing after this file unfolds them.

* `cell_modifyCell_self`, `cell_modifyCell_of_ne` — one cell is changed.
* `cell_start_self`, `cell_complete_self`, `cell_recordFailure_self`, `cell_skip_self` — the cell
  of the block itself, each with its companion for the other cells.
* **`cell_foldl_skipPending`** — a cascade of skips; `foldl_skipPending_books` says that nothing
  but cells and the listener changes.
* `vacate_perm` — taking a block off the running ones.
-/

namespace Blockflow

namespace RunSetup

/-- The plan of the setup is the plan of its workflow. -/
def Planned (s : RunSetup) : Prop := Plan.build s.workflow = .ok s.plan

/-- The number of blocks. -/
def size (s : RunSetup) : Nat := s.workflow.blocks.length

variable {s : RunSetup}

lemma Planned.lawful (h : s.Planned) : Plan.Lawful s.workflow s.plan := Plan.lawful_of_build h

lemma Planned.wellFormed (h : s.Planned) : s.workflow.WellFormed := Plan.wellFormed_of_build h

lemma block_mem {i : Nat} (hi : i < s.size) : s.workflow.blocks[i]? = some (s.block i) := by
  have : i < s.workflow.blocks.length := hi
  simp [block, List.getElem?_eq_getElem this]

/-- Blocks have different ids. -/
lemma Planned.id_inj (h : s.Planned) {i j : Nat} (hi : i < s.size) (hj : j < s.size)
    (heq : (s.block i).id = (s.block j).id) : i = j := by
  have hpi := Workflow.position?_of_getElem? h.wellFormed.ids (block_mem hi)
  have hpj := Workflow.position?_of_getElem? h.wellFormed.ids (block_mem hj)
  rw [heq] at hpi
  exact Option.some.inj (hpi.symm.trans hpj)

lemma Planned.position?_iff (h : s.Planned) {i : Nat} (hi : i < s.size) {id : String} :
    s.workflow.position? id = some i ↔ id = (s.block i).id := by
  rw [Workflow.position?_eq_some_iff h.wellFormed.ids, block_mem hi]
  simp

/-- The blocks before a block are those with a connection into it. -/
lemma Planned.mem_sources_iff (h : s.Planned) {u i : Nat} (hi : i < s.size) :
    u ∈ s.plan.sources i ↔ u < s.size ∧ s.workflow.Feeds (s.block u).id (s.block i).id := by
  rw [h.lawful.mem_sources, h.lawful.edges]
  constructor
  · rintro ⟨c, hc, hu, ht⟩
    have hlt : u < s.size := Workflow.position?_lt hu
    exact ⟨hlt, c, hc, (h.position?_iff hlt).mp hu, (h.position?_iff hi).mp ht⟩
  · rintro ⟨hlt, c, hc, hs, ht⟩
    exact ⟨c, hc, (h.position?_iff hlt).mpr hs, (h.position?_iff hi).mpr ht⟩

/-- A connection into a block comes from one of the blocks before it. -/
lemma Planned.exists_source (h : s.Planned) {i : Nat} (hi : i < s.size) {c : Connection}
    (hc : c ∈ s.workflow.incoming (s.block i).id) :
    ∃ u ∈ s.plan.sources i, s.workflow.position? c.source = some u := by
  obtain ⟨hmem, htarget⟩ := List.mem_filter.mp hc
  obtain ⟨u, hu⟩ := Workflow.exists_position?_iff.mpr (h.wellFormed.source_mem c hmem)
  have hlt : u < s.size := Workflow.position?_lt hu
  refine ⟨u, (h.mem_sources_iff hi).mpr ⟨hlt, c, hmem, ?_, of_decide_eq_true htarget⟩, hu⟩
  exact (h.position?_iff hlt).mp hu

/-- Two blocks, the second behind the first: the smallest workflow in which something waits. -/
def pipeline : RunSetup :=
  { workflow :=
      { blocks :=
          [{ id := "first", normalizedId := "first", config := .variable {} },
            { id := "second", normalizedId := "second", config := .variable {} }]
        connections := [{ source := "first", target := "second" }] }
    plan := ⟨2, [(0, 1)], [0, 1]⟩
    executionId := "run"
    trigger := [] }

lemma planned_pipeline : pipeline.Planned := rfl

end RunSetup

/-- Whether a block in this state was started. -/
def BlockStatus.isBegun : BlockStatus → Bool
  | .running | .completed | .failed => true
  | .pending | .skipped => false

lemma BlockStatus.isTerminal_of_ne {b : BlockStatus} (hrunning : b ≠ .running)
    (hpending : b ≠ .pending) : b.isTerminal := by
  cases b with
  | running => exact absurd rfl hrunning
  | pending => exact absurd rfl hpending
  | completed => rfl
  | failed => rfl
  | skipped => rfl

namespace Run

variable {s : RunSetup} {r : Run} {i j : Nat}

/-! ## One cell -/

@[simp] lemma length_modifyCell (f : Cell → Cell) :
    (r.modifyCell i f).cells.length = r.cells.length := by
  simp [modifyCell]

lemma cell_modifyCell_self (h : i < r.cells.length) (f : Cell → Cell) :
    (r.modifyCell i f).cell i = f (r.cell i) := by
  simp [modifyCell, cell, List.getElem?_eq_getElem h]

lemma cell_modifyCell_of_ne (h : j ≠ i) (f : Cell → Cell) :
    (r.modifyCell i f).cell j = r.cell j := by
  simp [modifyCell, cell, Ne.symm h]

lemma cell_congr {r' : Run} (h : r'.cells = r.cells) (i : Nat) : r'.cell i = r.cell i := by
  rw [cell, cell, h]

/-- A position without a cell counts as pending. -/
lemma lt_of_status_ne (h : r.status i ≠ .pending) : i < r.cells.length := by
  by_contra hlt
  have hnone : r.cells[i]? = none := List.getElem?_eq_none (by omega)
  exact h (by simp [status, cell, hnone])

/-! ## Starting, ending and skipping one block -/

lemma cell_start_self (h : i < r.cells.length) :
    (start s r i).cell i =
      { r.cell i with
        state := { (r.cell i).state with
          status := .running
          inputs := blockInputs s r i
          startedAt := some r.now } } :=
  cell_modifyCell_self h _

lemma cell_start_of_ne (h : j ≠ i) : (start s r i).cell j = r.cell j :=
  cell_modifyCell_of_ne h _

lemma status_start_self (h : i < r.cells.length) : (start s r i).status i = .running := by
  rw [status, cell_start_self h]

lemma status_start_of_ne (h : j ≠ i) : (start s r i).status j = r.status j := by
  rw [status, status, cell_start_of_ne h]

lemma status_start (h : i < r.cells.length) (j : Nat) :
    (start s r i).status j = if j = i then .running else r.status j := by
  split_ifs with hj
  · rw [hj, status_start_self h]
  · exact status_start_of_ne hj

lemma waiting_start (h : i < r.cells.length) (j : Nat) :
    ((start s r i).cell j).waiting = (r.cell j).waiting := by
  rcases eq_or_ne j i with rfl | hj
  · rw [cell_start_self h]
  · rw [cell_start_of_ne hj]

@[simp] lemma length_start : (start s r i).cells.length = r.cells.length :=
  length_modifyCell _

lemma cell_complete_self (h : i < r.cells.length) (outputs : Json.Object) :
    (complete s r i outputs).cell i =
      { r.cell i with
        state := { (r.cell i).state with
          status := .completed
          completedAt := some r.now
          outputs }
        output := some outputs } :=
  cell_modifyCell_self h _

lemma cell_complete_of_ne (h : j ≠ i) (outputs : Json.Object) :
    (complete s r i outputs).cell j = r.cell j :=
  cell_modifyCell_of_ne h _

lemma status_complete_self (h : i < r.cells.length) (outputs : Json.Object) :
    (complete s r i outputs).status i = .completed := by
  rw [status, cell_complete_self h]

lemma status_complete_of_ne (h : j ≠ i) (outputs : Json.Object) :
    (complete s r i outputs).status j = r.status j := by
  rw [status, status, cell_complete_of_ne h]

lemma status_complete (h : i < r.cells.length) (outputs : Json.Object) (j : Nat) :
    (complete s r i outputs).status j = if j = i then .completed else r.status j := by
  split_ifs with hj
  · rw [hj, status_complete_self h]
  · exact status_complete_of_ne hj outputs

lemma waiting_complete (h : i < r.cells.length) (outputs : Json.Object) (j : Nat) :
    ((complete s r i outputs).cell j).waiting = (r.cell j).waiting := by
  rcases eq_or_ne j i with rfl | hj
  · rw [cell_complete_self h]
  · rw [cell_complete_of_ne hj]

@[simp] lemma length_complete (outputs : Json.Object) :
    (complete s r i outputs).cells.length = r.cells.length :=
  length_modifyCell _

lemma cell_recordFailure_self (h : i < r.cells.length) (e : Error) :
    (recordFailure s r i e).cell i =
      { r.cell i with
        state := { (r.cell i).state with
          status := .failed
          completedAt := some r.now
          error := some e.message
          errorKind := some e.kind } } :=
  cell_modifyCell_self h _

lemma cell_recordFailure_of_ne (h : j ≠ i) (e : Error) :
    (recordFailure s r i e).cell j = r.cell j :=
  cell_modifyCell_of_ne h _

lemma status_recordFailure_self (h : i < r.cells.length) (e : Error) :
    (recordFailure s r i e).status i = .failed := by
  rw [status, cell_recordFailure_self h]

@[simp] lemma length_recordFailure (e : Error) :
    (recordFailure s r i e).cells.length = r.cells.length :=
  length_modifyCell _

lemma cell_skip_self (h : i < r.cells.length) :
    (skip s r i).cell i =
      { r.cell i with state := { (r.cell i).state with status := .skipped } } :=
  cell_modifyCell_self h _

lemma cell_skip_of_ne (h : j ≠ i) : (skip s r i).cell j = r.cell j :=
  cell_modifyCell_of_ne h _

@[simp] lemma length_skip : (skip s r i).cells.length = r.cells.length :=
  length_modifyCell _

/-! ## Cascades -/

/-- A cell after a cascade that reaches it: skipped if it was pending. -/
def Cell.skipped (c : Cell) : Cell :=
  if c.state.status = .pending then { c with state := { c.state with status := .skipped } } else c

lemma Cell.status_skipped (c : Cell) :
    (Cell.skipped c).state.status =
      if c.state.status = .pending then .skipped else c.state.status := by
  rw [Cell.skipped]
  split <;> rfl

lemma Cell.waiting_skipped (c : Cell) : (Cell.skipped c).waiting = c.waiting := by
  rw [Cell.skipped]
  split <;> rfl

lemma cell_skipPending_self (h : i < r.cells.length) :
    (skipPending s r i).cell i = Cell.skipped (r.cell i) := by
  rw [skipPending, Cell.skipped]
  by_cases hp : r.status i = .pending
  · rw [if_pos hp, if_pos (by exact hp), cell_skip_self h]
  · rw [if_neg hp, if_neg (by exact hp)]

lemma cell_skipPending_of_ne (h : j ≠ i) : (skipPending s r i).cell j = r.cell j := by
  rw [skipPending]
  split
  · exact cell_skip_of_ne h
  · rfl

@[simp] lemma length_skipPending : (skipPending s r i).cells.length = r.cells.length := by
  rw [skipPending]
  split
  · exact length_skip
  · rfl

lemma Cell.skipped_idem (c : Cell) : Cell.skipped (Cell.skipped c) = Cell.skipped c := by
  rw [Cell.skipped]
  split
  · next h =>
      rw [Cell.skipped] at h
      split at h
      · cases h
      · next hp => exact absurd h hp
  · rfl

/-- **A cascade skips the pending ones among its blocks** and no other. -/
theorem cell_foldl_skipPending (l : List Nat) : ∀ r : Run, (∀ i ∈ l, i < r.cells.length) → ∀ j,
    (l.foldl (skipPending s) r).cell j =
      if j ∈ l then Cell.skipped (r.cell j) else r.cell j := by
  induction l with
  | nil => simp
  | cons i l ih =>
      intro r hl j
      have hl' : ∀ k ∈ l, k < (skipPending s r i).cells.length := by
        intro k hk
        rw [length_skipPending]
        exact hl k (List.mem_cons_of_mem i hk)
      rw [List.foldl_cons, ih _ hl' j]
      by_cases hj : j = i
      · subst hj
        rw [cell_skipPending_self (hl j List.mem_cons_self), Cell.skipped_idem]
        simp
      · rw [cell_skipPending_of_ne hj]
        simp [hj]

lemma length_foldl_skipPending (l : List Nat) : ∀ r : Run,
    (l.foldl (skipPending s) r).cells.length = r.cells.length := by
  induction l with
  | nil => exact fun _ => rfl
  | cons i l ih => intro r; rw [List.foldl_cons, ih, length_skipPending]

/-- A cascade changes cells and the listener only. -/
lemma foldl_skipPending_books (l : List Nat) : ∀ r : Run,
    l.foldl (skipPending s) r =
      { r with
        cells := (l.foldl (skipPending s) r).cells
        listener := (l.foldl (skipPending s) r).listener } := by
  induction l with
  | nil => exact fun _ => rfl
  | cons i l ih =>
      intro r
      rw [List.foldl_cons, ih, skipPending]
      split <;> rfl

/-! ## Failing -/

section Fail

variable (hs : s.Planned) (hsize : r.cells.length = s.size) (e : Error)

include hs hsize

lemma cell_fail_of_ne (hj : j ≠ i) :
    (fail s r i e).cell j =
      if j ∈ s.plan.descendants i then Cell.skipped (r.cell j) else r.cell j := by
  have hlt : ∀ k ∈ s.plan.descendants i, k < (recordFailure s r i e).cells.length := by
    intro k hk
    rw [length_recordFailure, hsize]
    exact hs.lawful.descendants_lt hk
  rw [fail, cell_foldl_skipPending _ _ hlt, cell_recordFailure_of_ne hj]

lemma cell_fail_self : (fail s r i e).cell i = (recordFailure s r i e).cell i := by
  have hlt : ∀ k ∈ s.plan.descendants i, k < (recordFailure s r i e).cells.length := by
    intro k hk
    rw [length_recordFailure, hsize]
    exact hs.lawful.descendants_lt hk
  rw [fail, cell_foldl_skipPending _ _ hlt, if_neg hs.lawful.not_mem_descendants_self]

lemma status_fail_of_ne (hj : j ≠ i) :
    (fail s r i e).status j =
      if j ∈ s.plan.descendants i ∧ r.status j = .pending then .skipped else r.status j := by
  rw [status, cell_fail_of_ne hs hsize e hj, ite_and]
  split
  · exact Cell.status_skipped _
  · rfl

lemma waiting_fail (hi : i < r.cells.length) (j : Nat) :
    ((fail s r i e).cell j).waiting = (r.cell j).waiting := by
  by_cases hj : j = i
  · subst hj
    rw [cell_fail_self hs hsize, cell_recordFailure_self hi]
  · rw [cell_fail_of_ne hs hsize e hj]
    split
    · exact Cell.waiting_skipped _
    · rfl

lemma status_fail_self (hi : i < r.cells.length) : (fail s r i e).status i = .failed := by
  rw [status, cell_fail_self hs hsize e]
  exact status_recordFailure_self hi e

lemma status_fail (hi : i < r.cells.length) (j : Nat) :
    (fail s r i e).status j =
      if j = i then .failed
      else if j ∈ s.plan.descendants i ∧ r.status j = .pending then .skipped
      else r.status j := by
  by_cases hj : j = i
  · rw [if_pos hj, hj, status_fail_self hs hsize e hi]
  · rw [if_neg hj, status_fail_of_ne hs hsize e hj]

end Fail

@[simp] lemma length_fail (e : Error) : (fail s r i e).cells.length = r.cells.length := by
  rw [fail, length_foldl_skipPending, length_recordFailure]

/-- Failing changes cells and the listener only. -/
lemma fail_books (e : Error) :
    fail s r i e =
      { r with cells := (fail s r i e).cells, listener := (fail s r i e).listener } := by
  rw [fail, foldl_skipPending_books]
  rfl

section Books

variable (e : Error)

@[simp] lemma cancelled_fail : (fail s r i e).cancelled = r.cancelled := by rw [fail_books]

@[simp] lemma chores_fail : (fail s r i e).chores = r.chores := by rw [fail_books]

@[simp] lemma started_fail : (fail s r i e).started = r.started := by rw [fail_books]

@[simp] lemma running_fail : (fail s r i e).running = r.running := by rw [fail_books]

@[simp] lemma returned_fail : (fail s r i e).returned = r.returned := by rw [fail_books]

@[simp] lemma usage_fail : (fail s r i e).usage = r.usage := by rw [fail_books]

end Books

/-! ## The running blocks -/

/-- Putting `z` in the place of a block changes nothing where the block does not occur. -/
lemma map_replace_of_notMem {l : List Nat} (z : Nat) (h : i ∉ l) :
    l.map (fun j => if j = i then z else j) = l := by
  conv_rhs => rw [← List.map_id l]
  refine List.map_congr_left fun j hj => if_neg ?_
  rintro rfl
  exact h hj

/-- Taking a block off the running ones leaves the others, in some order. -/
theorem vacate_perm {l : List Nat} (hnodup : l.Nodup) (h : i ∈ l) :
    (vacate l i).Perm (l.erase i) := by
  rw [vacate, if_pos (by simpa using h)]
  obtain ⟨a, b, rfl⟩ := List.append_of_mem h
  obtain ⟨_, hib, hdisj⟩ := List.nodup_append.mp hnodup
  have ha : i ∉ a := fun hia => hdisj i hia i List.mem_cons_self rfl
  have hb : i ∉ b := (List.nodup_cons.mp hib).1
  rw [List.map_append, List.map_cons, if_pos rfl, map_replace_of_notMem _ ha,
    map_replace_of_notMem _ hb, List.erase_append_right _ ha, List.erase_cons_head]
  rcases List.eq_nil_or_concat b with rfl | ⟨b, z, rfl⟩
  · simp
  · -- the last block takes the place
    have hlast : (a ++ i :: (b ++ [z])).getLastD i = z := by
      rw [← List.cons_append, ← List.append_assoc, List.getLastD_concat]
    rw [List.concat_eq_append, hlast, ← List.cons_append, ← List.append_assoc,
      List.dropLast_concat, ← List.append_assoc]
    exact List.perm_middle.trans (List.perm_append_singleton z (a ++ b)).symm

lemma vacate_of_notMem {l : List Nat} (h : i ∉ l) : vacate l i = l := by
  rw [vacate, if_neg (by simpa using h)]

end Run

end Blockflow
