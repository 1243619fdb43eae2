import Blockflow.Proofs.Run.Sequential

/-!
# What is written down matches the evaluation

While blocks run side by side, the cell of each of them is either untouched, or holds the inputs
that the evaluation of the blocks one at a time gives it, or is the cell of that evaluation.  Here
is how the operations of a run carry a cell from one to the next.  Times are put aside.

* **`Run.Matches`** — one cell, next to what the evaluation comes to; `Run.Matched` for all.
* `Matched.inputs` — once the blocks before it have completed, a block's inputs are those of the
  evaluation.
* `Matched.start`, `Matches.complete`, `Matches.fail`, `Matches.skipped` — the operations.
-/

namespace Blockflow

/-! ## Notes and times -/

section Note

variable (authoritative : Bool) (e : BlockEnd) (b : BlockState)

lemma BlockEnd.untimed_note :
    (e.note authoritative b).untimed = e.note authoritative b.untimed := by
  rw [note, note]
  split
  · split <;> rfl
  · rfl

lemma BlockEnd.note_running (inputs : Json.Object) :
    e.note authoritative { status := .running, inputs } =
      { e.note authoritative {} with status := .running, inputs } := by
  rw [note, note]
  split
  · split <;> rfl
  · rfl

end Note

namespace Run

variable {s : RunSetup} {outcome : Outcomes} {r r' : Run} {i j : Nat}

/-! ## Cells -/

/-- **What is written down of a block matches the evaluation**: nothing yet, its inputs, or all of
it. -/
def Matches (s : RunSetup) (outcome : Outcomes) (i : Nat) (c : Cell) : Prop :=
  match c.state.status with
  | .pending => c.state.untimed = {} ∧ c.output = none
  | .running =>
    (sequential s outcome).isReady s i = true ∧
      c.state.untimed =
        { status := .running, inputs := blockInputs s (sequential s outcome) i } ∧
      c.output = none
  | _ =>
    c.state.untimed = ((sequential s outcome).cell i).state ∧
      c.output = ((sequential s outcome).cell i).output

lemma Matches.of_pending {c : Cell} (h : Matches s outcome i c) (hc : c.state.status = .pending) :
    c.state.untimed = {} ∧ c.output = none := by
  simpa only [Matches, hc] using h

lemma Matches.of_running {c : Cell} (h : Matches s outcome i c) (hc : c.state.status = .running) :
    (sequential s outcome).isReady s i = true ∧
      c.state.untimed =
        { status := .running, inputs := blockInputs s (sequential s outcome) i } ∧
      c.output = none := by
  simpa only [Matches, hc] using h

lemma Matches.of_isTerminal {c : Cell} (h : Matches s outcome i c)
    (hc : c.state.status.isTerminal) :
    c.state.untimed = ((sequential s outcome).cell i).state ∧
      c.output = ((sequential s outcome).cell i).output := by
  cases hstatus : c.state.status with
  | pending => rw [hstatus] at hc; cases hc
  | running => rw [hstatus] at hc; cases hc
  | completed => simpa only [Matches, hstatus] using h
  | failed => simpa only [Matches, hstatus] using h
  | skipped => simpa only [Matches, hstatus] using h

lemma matches_of_isTerminal {c : Cell} (hc : c.state.status.isTerminal)
    (hstate : c.state.untimed = ((sequential s outcome).cell i).state)
    (houtput : c.output = ((sequential s outcome).cell i).output) : Matches s outcome i c := by
  cases hstatus : c.state.status with
  | pending => rw [hstatus] at hc; cases hc
  | running => rw [hstatus] at hc; cases hc
  | completed => simpa only [Matches, hstatus] using ⟨hstate, houtput⟩
  | failed => simpa only [Matches, hstatus] using ⟨hstate, houtput⟩
  | skipped => simpa only [Matches, hstatus] using ⟨hstate, houtput⟩

/-- Counters do not matter. -/
lemma Matches.recount {c : Cell} (h : Matches s outcome i c) (n : Nat) :
    Matches s outcome i { c with waiting := n } := h

/-- All cells match. -/
def Matched (s : RunSetup) (outcome : Outcomes) (r : Run) : Prop :=
  ∀ i < s.size, Matches s outcome i (r.cell i)

/-- Where the blocks before a block have completed, it runs on what it is evaluated on. -/
lemma Matched.inputs (hs : s.Planned) (h : Matched s outcome r) (hi : i < s.size)
    (hready : ∀ u ∈ s.plan.sources i, r.status u = .completed) :
    (sequential s outcome).isReady s i = true ∧
      blockInputs s r i = blockInputs s (sequential s outcome) i := by
  have hsource : ∀ u ∈ s.plan.sources i,
      (r.cell u).state.untimed = ((sequential s outcome).cell u).state ∧
        (r.cell u).output = ((sequential s outcome).cell u).output := by
    intro u hu
    have hlt : u < s.size := (hs.lawful.lt_of_edge (hs.lawful.mem_sources.mp hu)).1
    have hstatus : (r.cell u).state.status = .completed := hready u hu
    exact (h u hlt).of_isTerminal (by rw [hstatus]; rfl)
  refine ⟨isReady_iff.mpr fun u hu => ?_, blockInputs_congr hs hi fun u hu => (hsource u hu).2⟩
  rw [status, ← (hsource u hu).1]
  exact hready u hu

/-- **Starting a block** writes down the inputs of the evaluation. -/
lemma Matched.start (hs : s.Planned) (h : Matched s outcome r) (hsize : r.cells.length = s.size)
    (hpending : r.status i = .pending)
    (hready : ∀ u ∈ s.plan.sources i, r.status u = .completed) :
    Matched s outcome (start s r i) := by
  intro j hj
  by_cases hji : j = i
  · subst hji
    have hlt : j < r.cells.length := by rw [hsize]; exact hj
    obtain ⟨hq, hinputs⟩ := h.inputs hs hj hready
    obtain ⟨hstate, houtput⟩ := (h j hj).of_pending hpending
    rw [cell_start_self hlt]
    refine ⟨hq, ?_, houtput⟩
    calc BlockState.untimed { (r.cell j).state with
            status := .running, inputs := blockInputs s r j, startedAt := some r.now }
        = { (r.cell j).state.untimed with status := .running, inputs := blockInputs s r j } := rfl
      _ = { status := .running, inputs := blockInputs s (sequential s outcome) j } := by
          rw [hstate, hinputs]
  · rw [cell_start_of_ne hji]
    exact h j hj

/-- What a running block returned is what the evaluation comes to. -/
lemma Matches.endOf {c : Cell} (h : Matches s outcome i c) (hc : c.state.status = .running) :
    outcome i c.state.inputs = endOf s outcome (sequential s outcome) i := by
  have hinputs : c.state.untimed.inputs = blockInputs s (sequential s outcome) i := by
    rw [(h.of_running hc).2.1]
  rw [Run.endOf, ← hinputs]
  rfl

/-- **Writing down a success** completes the cell of the evaluation. -/
lemma Matches.complete (hs : s.Planned) (hi : i < s.size) {c : Cell} (h : Matches s outcome i c)
    (hc : c.state.status = .running) {e : BlockEnd}
    (he : e = Run.endOf s outcome (sequential s outcome) i)
    (hend : e.failure? s.authoritative = none) (now : Option Timestamp) :
    Matches s outcome i
      { c with
        state := { e.note s.authoritative c.state with
          status := .completed, completedAt := now, outputs := e.delivered }
        output := some e.delivered } := by
  obtain ⟨hready, hstate, _⟩ := h.of_running hc
  obtain ⟨hq, hqoutput⟩ := cell_sequential_of_isReady hs hi hready
  rw [← he, BlockEnd.record_of_success hend] at hq hqoutput
  refine matches_of_isTerminal rfl ?_ ?_
  · rw [hq]
    calc BlockState.untimed { e.note s.authoritative c.state with
            status := .completed, completedAt := now, outputs := e.delivered }
        = { (e.note s.authoritative c.state).untimed with
            status := .completed, outputs := e.delivered } := rfl
      _ = _ := by rw [BlockEnd.untimed_note, hstate, BlockEnd.note_running]
  · rw [hqoutput, if_pos rfl]

/-- **Writing down a failure** completes the cell of the evaluation. -/
lemma Matches.fail (hs : s.Planned) (hi : i < s.size) {c : Cell} (h : Matches s outcome i c)
    (hc : c.state.status = .running) {e : BlockEnd} {failure : Error}
    (he : e = Run.endOf s outcome (sequential s outcome) i)
    (hend : e.failure? s.authoritative = some failure) (now : Option Timestamp) :
    Matches s outcome i
      { c with
        state := { e.note s.authoritative c.state with
          status := .failed
          completedAt := now
          error := some failure.message
          errorKind := some failure.kind } } := by
  obtain ⟨hready, hstate, houtput⟩ := h.of_running hc
  obtain ⟨hq, hqoutput⟩ := cell_sequential_of_isReady hs hi hready
  rw [← he, BlockEnd.record_of_failure hend] at hq hqoutput
  refine matches_of_isTerminal rfl ?_ ?_
  · rw [hq]
    calc BlockState.untimed { e.note s.authoritative c.state with
            status := .failed
            completedAt := now
            error := some failure.message
            errorKind := some failure.kind }
        = { (e.note s.authoritative c.state).untimed with
            status := .failed
            error := some failure.message
            errorKind := some failure.kind } := rfl
      _ = _ := by rw [BlockEnd.untimed_note, hstate, BlockEnd.note_running]
  · rw [hqoutput, if_neg nofun]
    exact houtput

/-- **A cascade** skips what the evaluation skips. -/
lemma Matches.skipped (hs : s.Planned) (hi : i < s.size) {c : Cell} (h : Matches s outcome i c)
    (hq : ¬ (sequential s outcome).isReady s i = true) :
    Matches s outcome i (Cell.skipped c) := by
  rw [Cell.skipped]
  split_ifs with hpending
  · obtain ⟨hstate, houtput⟩ := h.of_pending hpending
    obtain ⟨hqstate, hqoutput⟩ := cell_sequential_of_not_isReady hs hi hq
    refine matches_of_isTerminal rfl ?_ (houtput.trans hqoutput.symm)
    calc BlockState.untimed { c.state with status := .skipped }
        = { c.state.untimed with status := .skipped } := rfl
      _ = _ := by rw [hstate, hqstate]
  · exact h

end Run

end Blockflow
