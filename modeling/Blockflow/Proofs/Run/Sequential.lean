import Blockflow.Proofs.Run.Results

/-!
# Running the blocks one after the other

The plainest way to run a workflow: take the blocks in the order of the plan, run each of them on
what the blocks before it delivered, and skip it if one of those did not complete.  There are no
counters, no chores and no cascades, and nothing else happens meanwhile.

* `Outcomes` — what becomes of a block on given inputs.
* `BlockEnd.record` — the state in which an end leaves a block.
* **`Run.evaluateBlock`, `Run.sequential`** — one block, and all of them in order.
* **`cell_sequential`** — the evaluation explains itself: what it leaves for a block is what the
  final outputs of the blocks before it make of that block.
-/

namespace Blockflow

/-- What becomes of each block on each of its inputs. -/
abbrev Outcomes := Nat → Json.Object → BlockEnd

namespace BlockEnd

/-- **The state in which an end leaves a block** that ran on some inputs. -/
def record (authoritative : Bool) (inputs : Json.Object) (e : BlockEnd) : BlockState :=
  match e.result, e.rejection with
  | .error failure, _ =>
    { status := .failed
      inputs
      error := some failure.message
      errorKind := some failure.kind }
  | .ok output, none => { status := .completed, inputs, outputs := stripReserved output.outputs }
  | .ok output, some reason =>
    if authoritative then
      { status := .failed
        inputs
        outputs := stripReserved output.outputs
        error := some (Error.checkFailed reason).message
        errorKind := some (Error.checkFailed reason).kind }
    else
      { status := .completed
        inputs
        outputs := stripReserved output.outputs
        warning := some reason }

variable {authoritative : Bool} {e : BlockEnd}

lemma record_of_failure {failure : Error} (h : e.failure? authoritative = some failure)
    (inputs : Json.Object) :
    e.record authoritative inputs =
      { e.note authoritative {} with
        status := .failed
        inputs
        error := some failure.message
        errorKind := some failure.kind } := by
  obtain ⟨result, verdict, checkUsage⟩ := e
  cases result with
  | error f =>
      obtain rfl : f = failure := by simpa [failure?] using h
      simp [record, note]
  | ok output =>
      cases hrej : rejection ⟨.ok output, verdict, checkUsage⟩ with
      | none => simp [failure?, hrej] at h
      | some reason =>
          cases authoritative with
          | false => simp [failure?] at h
          | true =>
              obtain rfl : Error.checkFailed reason = failure := by simpa [failure?, hrej] using h
              simp [record, note, hrej, delivered]

lemma record_of_success (h : e.failure? authoritative = none) (inputs : Json.Object) :
    e.record authoritative inputs =
      { e.note authoritative {} with
        status := .completed
        inputs
        outputs := e.delivered } := by
  obtain ⟨result, verdict, checkUsage⟩ := e
  cases result with
  | error f => simp [failure?] at h
  | ok output =>
      cases hrej : rejection ⟨.ok output, verdict, checkUsage⟩ with
      | none => simp [record, note, hrej, delivered]
      | some reason =>
          cases authoritative with
          | false => simp [record, note, hrej, delivered]
          | true => simp [failure?, hrej] at h

lemma record_status_ne_skipped (authoritative : Bool) (inputs : Json.Object) (e : BlockEnd) :
    (e.record authoritative inputs).status ≠ .skipped := by
  cases h : e.failure? authoritative with
  | none => rw [record_of_success h]; nofun
  | some failure => rw [record_of_failure h]; nofun

end BlockEnd

namespace Run

variable {s : RunSetup} {outcome : Outcomes} {r r' : Run} {i j : Nat}

/-! ## The evaluation -/

/-- Whether all blocks before a block have completed. -/
def isReady (s : RunSetup) (r : Run) (i : Nat) : Bool :=
  (s.plan.sources i).all fun u => r.status u = .completed

/-- What becomes of a block on the outputs that a run holds. -/
def endOf (s : RunSetup) (outcome : Outcomes) (r : Run) (i : Nat) : BlockEnd :=
  outcome i (blockInputs s r i)

/-- The cell of a block that ran on the outputs that a run holds, or was skipped. -/
def evaluated (s : RunSetup) (outcome : Outcomes) (r : Run) (i : Nat) (c : Cell) : Cell :=
  if r.isReady s i then
    let state := (endOf s outcome r i).record s.authoritative (blockInputs s r i)
    { c with state, output := if state.status = .completed then some state.outputs else none }
  else { c with state := { c.state with status := .skipped } }

/-- **Evaluates one block.** -/
def evaluateBlock (s : RunSetup) (outcome : Outcomes) (r : Run) (i : Nat) : Run :=
  { r with
    cells := r.cells.modify i (evaluated s outcome r i)
    usage := if r.isReady s i then r.usage + (endOf s outcome r i).usage else r.usage }

/-- **Evaluates the blocks one at a time**, in the order of the plan. -/
def sequential (s : RunSetup) (outcome : Outcomes) : Run :=
  s.plan.order.foldl (evaluateBlock s outcome) (initial s {} false)

/-! ## What a block's inputs depend on -/

/-- **The inputs of a block depend on the outputs of the blocks before it only.** -/
theorem blockInputs_congr (hs : s.Planned) (hi : i < s.size)
    (h : ∀ u ∈ s.plan.sources i, (r'.cell u).output = (r.cell u).output) :
    blockInputs s r' i = blockInputs s r i := by
  have hsources : sourceInputs s r' i = sourceInputs s r i := by
    rw [sourceInputs, sourceInputs]
    refine List.foldl_ext _ _ [] fun ms u hu => ?_
    rw [h u hu]
  have hdeliver : ∀ ms : Json.Object, (s.workflow.incoming (s.block i).id).foldl (deliver s r') ms =
      (s.workflow.incoming (s.block i).id).foldl (deliver s r) ms := by
    intro ms
    refine List.foldl_ext _ _ ms fun ms c hc => ?_
    obtain ⟨u, hsource, hu⟩ := hs.exists_source hi hc
    have hfind : (s.workflow.blocks.findIdx? fun b => b.id = c.source) = some u := hu
    simp only [deliver, hfind, Option.bind_some, h u hsource]
  rw [blockInputs, blockInputs, hsources, hdeliver]

lemma isReady_iff : r.isReady s i = true ↔ ∀ u ∈ s.plan.sources i, r.status u = .completed := by
  simp [isReady]

lemma isReady_congr (h : ∀ u ∈ s.plan.sources i, r'.status u = r.status u) :
    r'.isReady s i = r.isReady s i := by
  rw [Bool.eq_iff_iff, isReady_iff, isReady_iff]
  exact forall₂_congr fun u hu => by rw [h u hu]

/-- What a block evaluates to depends on the blocks before it only. -/
lemma evaluated_congr (hs : s.Planned) (hi : i < s.size)
    (h : ∀ u ∈ s.plan.sources i, r'.cell u = r.cell u) (c : Cell) :
    evaluated s outcome r' i c = evaluated s outcome r i c := by
  have hinputs : blockInputs s r' i = blockInputs s r i :=
    blockInputs_congr hs hi fun u hu => by rw [h u hu]
  have hready : r'.isReady s i = r.isReady s i :=
    isReady_congr fun u hu => by rw [status, status, h u hu]
  rw [evaluated, evaluated, endOf, endOf, hready, hinputs]

/-! ## Cells -/

lemma cell_evaluateBlock_self (h : i < r.cells.length) :
    (evaluateBlock s outcome r i).cell i = evaluated s outcome r i (r.cell i) :=
  cell_modifyCell_self h _

lemma cell_evaluateBlock_of_ne (h : j ≠ i) : (evaluateBlock s outcome r i).cell j = r.cell j :=
  cell_modifyCell_of_ne h (evaluated s outcome r i)

@[simp] lemma length_evaluateBlock :
    (evaluateBlock s outcome r i).cells.length = r.cells.length :=
  List.length_modify _ _ _

lemma length_foldl_evaluateBlock (l : List Nat) : ∀ r : Run,
    (l.foldl (evaluateBlock s outcome) r).cells.length = r.cells.length := by
  induction l with
  | nil => exact fun _ => rfl
  | cons i l ih => intro r; rw [List.foldl_cons, ih, length_evaluateBlock]

/-- A block that is not among those evaluated is left alone. -/
lemma cell_foldl_evaluateBlock_of_notMem (l : List Nat) (hj : j ∉ l) : ∀ r : Run,
    (l.foldl (evaluateBlock s outcome) r).cell j = r.cell j := by
  induction l with
  | nil => exact fun _ => rfl
  | cons i l ih =>
      intro r
      have hji : j ≠ i := fun h => hj (h ▸ List.mem_cons_self)
      have hjl : j ∉ l := fun h => hj (List.mem_cons_of_mem i h)
      rw [List.foldl_cons, ih hjl, cell_evaluateBlock_of_ne hji]

lemma length_sequential (s : RunSetup) (outcome : Outcomes) :
    (sequential s outcome).cells.length = s.size := by
  rw [sequential, length_foldl_evaluateBlock]
  simp [initial, RunSetup.size]

/-- A block stands behind the blocks it depends on. -/
lemma sources_before (hs : s.Planned) {front back : List Nat}
    (horder : s.plan.order = front ++ i :: back) {u : Nat} (hu : u ∈ s.plan.sources i) :
    u ≠ i ∧ u ∉ back := by
  have hedge := hs.lawful.mem_sources.mp hu
  refine ⟨?_, fun hback => ?_⟩
  · rintro rfl
    exact hs.lawful.loopless u hedge
  · have hforward := hs.lawful.forward
    rw [horder, List.pairwise_append, List.pairwise_cons] at hforward
    exact hforward.2.1.1 u hback hedge

lemma cell_initial (hi : i < s.size) (listener : Listener) (cancelled : Bool) :
    (initial s listener cancelled).cell i = { waiting := (s.plan.sources i).length } :=
  cell_begin listener cancelled hi

/-- When a block is evaluated, the blocks before it are as they will be in the end. -/
lemma cell_source_sequential (hs : s.Planned) {front back : List Nat}
    (horder : s.plan.order = front ++ i :: back) {u : Nat} (hu : u ∈ s.plan.sources i) :
    (sequential s outcome).cell u =
      (front.foldl (evaluateBlock s outcome) (initial s {} false)).cell u := by
  obtain ⟨hne, hub⟩ := sources_before hs horder hu
  rw [sequential, horder, List.foldl_append, List.foldl_cons,
    cell_foldl_evaluateBlock_of_notMem back hub, cell_evaluateBlock_of_ne hne]

/-- **The evaluation explains itself.**  A block is evaluated when the blocks before it have been,
and nothing afterwards changes any of them. -/
theorem cell_sequential (hs : s.Planned) (hi : i < s.size) :
    (sequential s outcome).cell i =
      evaluated s outcome (sequential s outcome) i { waiting := (s.plan.sources i).length } := by
  obtain ⟨front, back, horder⟩ := List.append_of_mem (hs.lawful.mem_order.mpr hi)
  have hnodup := hs.lawful.nodup
  rw [horder] at hnodup
  obtain ⟨_, hback, hdisj⟩ := List.nodup_append.mp hnodup
  have hib : i ∉ back := (List.nodup_cons.mp hback).1
  have hif : i ∉ front := fun h => hdisj i h i List.mem_cons_self rfl
  have hlt : i < (front.foldl (evaluateBlock s outcome) (initial s {} false)).cells.length := by
    rw [length_foldl_evaluateBlock]
    simpa [initial, RunSetup.size] using hi
  rw [evaluated_congr hs hi fun u hu => cell_source_sequential hs horder hu,
    ← cell_initial hi {} false, sequential, horder, List.foldl_append, List.foldl_cons,
    cell_foldl_evaluateBlock_of_notMem back hib, cell_evaluateBlock_self hlt,
    cell_foldl_evaluateBlock_of_notMem front hif]

section Evaluated

variable (hs : s.Planned) (hi : i < s.size)

include hs hi

/-- A block whose sources completed ran on what they delivered. -/
lemma cell_sequential_of_isReady (h : (sequential s outcome).isReady s i = true) :
    let state := (endOf s outcome (sequential s outcome) i).record s.authoritative
      (blockInputs s (sequential s outcome) i)
    ((sequential s outcome).cell i).state = state ∧
      ((sequential s outcome).cell i).output =
        if state.status = .completed then some state.outputs else none := by
  rw [cell_sequential hs hi, evaluated, if_pos h]
  exact ⟨rfl, rfl⟩

/-- Any other block was skipped. -/
lemma cell_sequential_of_not_isReady (h : ¬ (sequential s outcome).isReady s i = true) :
    ((sequential s outcome).cell i).state = { status := .skipped } ∧
      ((sequential s outcome).cell i).output = none := by
  rw [cell_sequential hs hi, evaluated, if_neg h]
  exact ⟨rfl, rfl⟩

end Evaluated

/-- What depends on a block that did not complete is skipped. -/
lemma not_isReady_of_mem_descendants (hs : s.Planned)
    (hi : (sequential s outcome).status i ≠ .completed) (hj : j ∈ s.plan.descendants i) :
    ¬ (sequential s outcome).isReady s j = true := by
  have hstep : ∀ u v, (sequential s outcome).status u ≠ .completed → (u, v) ∈ s.plan.edges →
      ¬ (sequential s outcome).isReady s v = true := by
    intro u v hu huv hready
    exact hu (isReady_iff.mp hready u (hs.lawful.mem_sources.mpr huv))
  have hskipped : ∀ u, u < s.size → ¬ (sequential s outcome).isReady s u = true →
      (sequential s outcome).status u ≠ .completed := by
    intro u hlt hu
    rw [status, (cell_sequential_of_not_isReady hs hlt hu).1]
    decide
  induction hs.lawful.mem_descendants.mp hj with
  | single he => exact hstep i _ hi he
  | tail hpath he ih =>
      have hmid := hs.lawful.mem_descendants.mpr hpath
      exact hstep _ _ (hskipped _ (hs.lawful.descendants_lt hmid) (ih hmid)) he

/-! ## Usage -/

/-- What a block costs on the outputs that a run holds. -/
def cost (s : RunSetup) (outcome : Outcomes) (r : Run) (i : Nat) : TokenUsage :=
  if r.isReady s i then (endOf s outcome r i).usage else 0

lemma usage_evaluateBlock :
    (evaluateBlock s outcome r i).usage = r.usage + cost s outcome r i := by
  rw [evaluateBlock, cost]
  split_ifs
  · rfl
  · exact (add_zero r.usage).symm

lemma cost_congr (hs : s.Planned) (hi : i < s.size)
    (h : ∀ u ∈ s.plan.sources i, r'.cell u = r.cell u) :
    cost s outcome r' i = cost s outcome r i := by
  have hinputs : blockInputs s r' i = blockInputs s r i :=
    blockInputs_congr hs hi fun u hu => by rw [h u hu]
  have hready : r'.isReady s i = r.isReady s i :=
    isReady_congr fun u hu => by rw [status, status, h u hu]
  rw [cost, cost, endOf, endOf, hready, hinputs]

/-- **The usage of the evaluation** is what its blocks cost. -/
theorem usage_sequential (hs : s.Planned) :
    (sequential s outcome).usage =
      ∑ i ∈ Finset.range s.size, cost s outcome (sequential s outcome) i := by
  have hfront : ∀ front back, s.plan.order = front ++ back →
      (front.foldl (evaluateBlock s outcome) (initial s {} false)).usage =
        (front.map (cost s outcome (sequential s outcome))).sum := by
    intro front
    induction front using List.reverseRecOn with
    | nil => exact fun _ _ => rfl
    | append_singleton front i ih =>
        intro back horder
        have horder' : s.plan.order = front ++ i :: back := by simpa using horder
        have hi : i < s.size := hs.lawful.mem_order.mp (by rw [horder']; simp)
        rw [List.foldl_append, List.foldl_cons, List.foldl_nil, usage_evaluateBlock, ih _ horder',
          List.map_append, List.sum_append, List.map_singleton, List.sum_singleton,
          cost_congr hs hi fun u hu => (cell_source_sequential hs horder' hu).symm]
  have hset : s.plan.order.toFinset = Finset.range s.size := by
    ext i
    rw [List.mem_toFinset, Finset.mem_range]
    exact hs.lawful.mem_order
  rw [← hset, List.sum_toFinset _ hs.lawful.nodup,
    ← hfront s.plan.order [] (List.append_nil _).symm, sequential]

end Run

end Blockflow
