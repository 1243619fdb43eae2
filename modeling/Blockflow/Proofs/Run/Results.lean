import Blockflow.Proofs.Run.Moves
import Mathlib.Data.List.Find

/-!
# What is read off a run that has ended

The result of a run is read off its cells after they have been settled.  Blocks have different
ids, so the table of their states has exactly one entry for each of them.

* **`get?_blockStates`** — the entry of a block is its settled state.
* `BlockState.untimed`, `ExecutionResult.untimed` — what is left when times are put aside.
* `overall_congr`, `outputTable_congr`, `mapValues_stateTable_congr` — what the parts of a result
  depend on.
* **`result_congr`** — apart from times, a result depends on what the blocks came to and delivered,
  and on usage.
-/

namespace Blockflow

namespace Table

variable {α : Type}

lemma get?_foldl_insert_of_ne (l : List (String × α)) (key : String) : ∀ t : Table α,
    (∀ e ∈ l, e.1 ≠ key) → (l.foldl (fun t e => insert t e.1 e.2) t).get? key = t.get? key := by
  induction l with
  | nil => exact fun _ _ => rfl
  | cons e l ih =>
      intro t h
      obtain ⟨he, hl⟩ := List.forall_mem_cons.mp h
      rw [List.foldl_cons, ih _ hl, get?_insert_of_ne t e.2 (Ne.symm he)]

/-- With distinct keys every entry is found. -/
lemma get?_ofList {l : List (String × α)} (hkeys : (l.map Prod.fst).Nodup) {e : String × α}
    (he : e ∈ l) : (ofList l).get? e.1 = some e.2 := by
  obtain ⟨front, back, rfl⟩ := List.append_of_mem he
  rw [List.map_append, List.map_cons] at hkeys
  obtain ⟨_, hback, _⟩ := List.nodup_append.mp hkeys
  have hne : ∀ x ∈ back, x.1 ≠ e.1 := by
    intro x hx heq
    exact (List.nodup_cons.mp hback).1 (heq ▸ List.mem_map_of_mem hx)
  rw [ofList, List.foldl_append, List.foldl_cons, get?_foldl_insert_of_ne back e.1 _ hne,
    get?_insert_self]

/-- Changing the entries of a list changes those of its table. -/
lemma mapValues_ofList {β : Type} (f : α → β) (l : List (String × α)) :
    (ofList l).mapValues f = ofList (l.map fun e => (e.1, f e.2)) := by
  have hinsert : ∀ (t : Table α) (key : String) (value : α),
      (t.insert key value).mapValues f = (t.mapValues f).insert key (f value) := by
    intro t key value
    induction t with
    | nil => rfl
    | cons e t ih =>
        obtain ⟨k, v⟩ := e
        simp only [insert, mapValues, List.map_cons] at ih ⊢
        split_ifs
        · rfl
        · rfl
        · rw [List.map_cons, ih]
  have hfoldl : ∀ t : Table α,
      (l.foldl (fun t e => insert t e.1 e.2) t).mapValues f =
        (l.map fun e => (e.1, f e.2)).foldl (fun t e => insert t e.1 e.2) (t.mapValues f) := by
    induction l with
    | nil => exact fun _ => rfl
    | cons e l ih =>
        intro t
        rw [List.foldl_cons, ih, hinsert]
        rfl
  exact hfoldl []

end Table

/-- A state without its times. -/
def BlockState.untimed (b : BlockState) : BlockState :=
  { b with startedAt := none, completedAt := none }

/-- A result without its times. -/
def ExecutionResult.untimed (e : ExecutionResult) : ExecutionResult :=
  { e with
    blockStates := e.blockStates.mapValues BlockState.untimed
    startedAt := ⟨0, 0⟩
    completedAt := ⟨0, 0⟩ }

namespace Run

variable {s : RunSetup} {r : Run} {i : Nat}

/-- The state of a block is found under its id. -/
lemma get?_stateTable (hs : s.Planned) (hsize : r.cells.length = s.size) (hi : i < s.size) :
    (stateTable s r).get? (s.block i).id = some (r.cell i).state := by
  have hkeys : ((s.workflow.blocks.zip r.cells).map fun x => (x.1.id, x.2.state)).map Prod.fst =
      s.workflow.blocks.map Block.id := by
    have hle : s.workflow.blocks.length ≤ r.cells.length := le_of_eq hsize.symm
    calc ((s.workflow.blocks.zip r.cells).map fun x => (x.1.id, x.2.state)).map Prod.fst
        = ((s.workflow.blocks.zip r.cells).map Prod.fst).map Block.id := by
          rw [List.map_map, List.map_map]
          rfl
      _ = s.workflow.blocks.map Block.id := by rw [List.map_fst_zip hle]
  refine Table.get?_ofList (e := ((s.block i).id, (r.cell i).state)) ?_ ?_
  · rw [hkeys]
    exact hs.wellFormed.ids
  · have hlt : i < r.cells.length := by rw [hsize]; exact hi
    have hcell : r.cells[i]? = some (r.cell i) := by
      rw [cell, List.getElem?_eq_getElem hlt, Option.getD_some]
    have hzip : (s.workflow.blocks.zip r.cells)[i]? = some (s.block i, r.cell i) := by
      rw [List.getElem?_zip_eq_some]
      exact ⟨RunSetup.block_mem hi, hcell⟩
    exact List.mem_map.mpr ⟨_, List.mem_of_getElem? hzip, rfl⟩

lemma length_close (hs : s.Planned) (hsize : r.cells.length = s.size) :
    (close s r).cells.length = s.size := by
  rw [(path_close hs hsize).size, hsize]

/-- **The entry of a block in the result** is its state when the run is settled. -/
theorem get?_blockStates (hs : s.Planned) (hsize : r.cells.length = s.size) (hi : i < s.size) :
    (conclude s r).blockStates.get? (s.block i).id = some ((close s r).cell i).state :=
  get?_stateTable hs (length_close hs hsize) hi

lemma isTerminal_close (hs : s.Planned) (hsize : r.cells.length = s.size) (hi : i < s.size) :
    ((close s r).status i).isTerminal := by
  rw [status, cell_close hs hsize hi]
  exact Cell.isTerminal_settled r.now (r.cell i)

/-! ## What a result depends on -/

lemma cells_eq (r : Run) : r.cells = (List.range r.cells.length).map r.cell := by
  refine List.ext_getElem (by simp) fun i hi _ => ?_
  simp [cell, List.getElem?_eq_getElem hi]

lemma blocks_zip_cells (hsize : r.cells.length = s.size) :
    s.workflow.blocks.zip r.cells = (List.range s.size).map fun i => (s.block i, r.cell i) := by
  have hlength : (s.workflow.blocks.zip r.cells).length = s.size := by
    rw [List.length_zip, hsize]
    exact Nat.min_self _
  refine List.ext_getElem (by simp [hlength]) fun i hi _ => ?_
  have hlt : i < s.size := by rw [← hlength]; exact hi
  have hblock := RunSetup.block_mem hlt
  have hcell : i < r.cells.length := by rw [hsize]; exact hlt
  rw [List.getElem?_eq_getElem hlt, Option.some_inj] at hblock
  simp only [List.getElem_zip, List.getElem_map, List.getElem_range, cell,
    List.getElem?_eq_getElem hcell, Option.getD_some]
  exact congrArg (·, r.cells[i]) hblock

lemma completedCount_congr {r r' : Run} (hsize : r.cells.length = s.size)
    (hsize' : r'.cells.length = s.size) (hstatus : ∀ i < s.size, r'.status i = r.status i) :
    r'.completedCount = r.completedCount := by
  rw [completedCount, completedCount, cells_eq r', cells_eq r, hsize, hsize', List.countP_map,
    List.countP_map]
  refine List.countP_congr fun i hi => ?_
  have := hstatus i (List.mem_range.mp hi)
  simp only [status] at this
  simp [this]

/-- What a run as a whole comes to depends on the statuses and errors of its blocks. -/
lemma overall_congr {r r' : Run} (hs : s.Planned) (hsize : r.cells.length = s.size)
    (hsize' : r'.cells.length = s.size) (hstatus : ∀ i < s.size, r'.status i = r.status i)
    (herror : ∀ i < s.size, (r'.cell i).state.error = (r.cell i).state.error)
    (hkind : ∀ i < s.size, (r'.cell i).state.errorKind = (r.cell i).state.errorKind)
    (cancelled : Bool) :
    r'.overallStatus cancelled = r.overallStatus cancelled ∧
      overallError s r' cancelled = overallError s r cancelled := by
  have horder : ∀ i ∈ s.plan.order, i < s.size := fun i hi => hs.lawful.mem_order.mp hi
  have hoverall : r'.overallStatus cancelled = r.overallStatus cancelled := by
    rw [overallStatus, overallStatus, completedCount_congr hsize hsize' hstatus, hsize, hsize']
  have hfirst : firstFailed? s r' = firstFailed? s r := by
    rw [firstFailed?, firstFailed?]
    exact List.find?_congr fun i hi => by rw [hstatus i (horder i hi)]
  refine ⟨hoverall, ?_⟩
  rw [overallError, overallError, hoverall, hfirst]
  cases hf : firstFailed? s r with
  | none => rfl
  | some i =>
      have hi := horder i (List.mem_of_find?_eq_some hf)
      simp only [herror i hi, hkind i hi]

/-- The table of outputs depends on what the blocks delivered. -/
lemma outputTable_congr {r r' : Run} (hs : s.Planned)
    (houtput : ∀ i < s.size, (r'.cell i).output = (r.cell i).output) :
    outputTable s r' = outputTable s r := by
  rw [outputTable, outputTable]
  refine List.foldl_ext _ _ [] fun ms i hi => ?_
  rw [houtput i (hs.lawful.mem_order.mp hi)]

/-- What is seen of the table of states depends on what is seen of each of them. -/
lemma mapValues_stateTable_congr {α : Type} {r r' : Run} (hsize : r.cells.length = s.size)
    (hsize' : r'.cells.length = s.size) (view : BlockState → α)
    (hview : ∀ i < s.size, view (r'.cell i).state = view (r.cell i).state) :
    (stateTable s r').mapValues view = (stateTable s r).mapValues view := by
  rw [stateTable, stateTable, blocks_zip_cells hsize, blocks_zip_cells hsize',
    Table.mapValues_ofList, Table.mapValues_ofList, List.map_map, List.map_map, List.map_map,
    List.map_map]
  refine congrArg Table.ofList (List.map_congr_left fun i hi => ?_)
  simp only [Function.comp_apply, hview i (List.mem_range.mp hi)]

/-- **Apart from times, a result depends on what the blocks came to and delivered**, and on
usage. -/
theorem result_congr {r r' : Run} (hs : s.Planned) (hsize : r.cells.length = s.size)
    (hsize' : r'.cells.length = s.size) (husage : r'.usage = r.usage)
    (hstate : ∀ i < s.size, (r'.cell i).state.untimed = (r.cell i).state.untimed)
    (houtput : ∀ i < s.size, (r'.cell i).output = (r.cell i).output) (cancelled : Bool) :
    (result s r' cancelled).untimed = (result s r cancelled).untimed := by
  have hfield : ∀ {α : Type} (f : BlockState → α), (∀ b, f b.untimed = f b) →
      ∀ i < s.size, f (r'.cell i).state = f (r.cell i).state := by
    intro α f hf i hi
    rw [← hf, hstate i hi, hf]
  obtain ⟨hoverall, herror⟩ := overall_congr hs hsize hsize'
    (hfield BlockState.status fun _ => rfl) (hfield BlockState.error fun _ => rfl)
    (hfield BlockState.errorKind fun _ => rfl) cancelled
  have houtputs := outputTable_congr hs houtput
  have hstates := mapValues_stateTable_congr hsize hsize' BlockState.untimed hstate
  simp only [ExecutionResult.untimed, result, hoverall, herror, houtputs, hstates, husage]

end Run

end Blockflow
