import Blockflow.Proofs.Run.Counts
import Blockflow.Proofs.Run.Overall
import Blockflow.Proofs.Run.Sequential
import Mathlib.Data.List.Permutation

/-!
# What a block is given

A block behind others is due a value for each connection into it, under the name of its input,
and the outputs of each block before it, under that block's normalized id.  All of them share one
table, so what it holds under a name is one of the values due there, and where two different ones
are due the other is lost.

* `Connection.Carries`, **`Due`** — what a block is due, read off the final states of the blocks
  before it.
* **`Fed`** — what a block was given when it started is what the outputs before it still make of
  it; `Fed.move` keeps it along a run.
* `blockInputs_eq`, `mem_deliveries_iff` — the inputs are the table of what is due.
* `Workflow.PortsApart` — connections that cannot collide, whatever the blocks come to.
* **`inputs_delivered`** — nothing due to a block is lost exactly if no name is due two values.
-/

namespace Blockflow

variable {w : Workflow} {states : Table BlockState} {b : Block} {key : String} {v v' : Json}

/-! ## What is due -/

namespace Connection

variable {c : Connection} {outputs : Json.Object}

/-- **What a connection carries** of the outputs of its source: the output that it names; where
there is none, all of them if it leads from the default port, and null if it leads from another. -/
inductive Carries (c : Connection) (outputs : Json.Object) : Json → Prop where
  | named {v : Json} (h : Table.get? outputs c.sourceOutput = some v) : Carries c outputs v
  | whole (h : Table.get? outputs c.sourceOutput = none) (hport : c.sourceOutput = "output") :
      Carries c outputs (.object outputs)
  | missing (h : Table.get? outputs c.sourceOutput = none) (hport : c.sourceOutput ≠ "output") :
      Carries c outputs .null

/-- A connection carries one value. -/
lemma carries_iff : c.Carries outputs v ↔ v = Run.outputValue outputs c.sourceOutput := by
  constructor
  · rintro (h | ⟨h, hport⟩ | ⟨h, hport⟩)
    · rw [Run.outputValue, h]
    · rw [Run.outputValue, h]
      exact (if_pos hport).symm
    · rw [Run.outputValue, h]
      exact (if_neg hport).symm
  · rintro rfl
    rw [Run.outputValue]
    split
    · next v h => exact .named h
    · next h =>
        split_ifs with hport
        · exact .whole h hport
        · exact .missing h hport

end Connection

/-- **What a block is due** under a name, if the blocks before it came to these states. -/
inductive Due (w : Workflow) (states : Table BlockState) (b : Block) : String → Json → Prop where
  | carried {c : Connection} {a : BlockState} {v : Json} (hc : c ∈ w.incoming b.id)
      (ha : states.get? c.source = some a) (hv : c.Carries a.outputs v) :
      Due w states b c.targetInput v
  | upstream {source : Block} {a : BlockState} (hsource : source ∈ w.blocks)
      (hfeeds : w.Feeds source.id b.id) (ha : states.get? source.id = some a) :
      Due w states b source.normalizedId (.object a.outputs)

/-- **Connections into a block that cannot collide**: they lead to different inputs, none of which
has the name of a block before it. -/
structure Workflow.PortsApart (w : Workflow) (b : Block) : Prop where
  distinct : ((w.incoming b.id).map Connection.targetInput).Nodup
  unnamed : ∀ c ∈ w.incoming b.id, ∀ source ∈ w.blocks, w.Feeds source.id b.id →
    c.targetInput ≠ source.normalizedId

/-- Where connections cannot collide a block is due one value under each name. -/
lemma Due.unique (hnormalized : (w.blocks.map Block.normalizedId).Nodup) (hports : w.PortsApart b)
    (h : Due w states b key v) (h' : Due w states b key v') : v = v' := by
  cases h with
  | carried hc ha hv =>
      generalize hkey : Connection.targetInput _ = key at h'
      cases h' with
      | carried hc' ha' hv' =>
          obtain rfl := List.inj_on_of_nodup_map hports.distinct hc hc' hkey
          rw [ha] at ha'
          cases ha'
          rw [Connection.carries_iff.mp hv, Connection.carries_iff.mp hv']
      | upstream hsource hfeeds _ => exact absurd hkey (hports.unnamed _ hc _ hsource hfeeds)
  | upstream hsource hfeeds ha =>
      generalize hkey : Block.normalizedId _ = key at h'
      cases h' with
      | carried hc' _ _ => exact absurd hkey.symm (hports.unnamed _ hc' _ hsource hfeeds)
      | upstream hsource' _ ha' =>
          obtain rfl := List.inj_on_of_nodup_map hnormalized hsource hsource' hkey
          rw [ha] at ha'
          cases ha'
          rfl

namespace Run

variable {s : RunSetup} {r r' : Run} {i : Nat}

/-! ## Inputs last -/

/-- **What a started block was given is what the blocks before it still say.** -/
def Fed (s : RunSetup) (r : Run) : Prop :=
  ∀ i, (r.status i).isBegun → (∀ u ∈ s.plan.sources i, r.status u = .completed) ∧
    (r.cell i).state.inputs = blockInputs s r i

/-- A move leaves the inputs of the blocks that have begun, and gives inputs to a block that
begins. -/
lemma Move.given (hmove : Move s r r') (hi : (r'.status i).isBegun) :
    ((r.status i).isBegun ∧ (r'.cell i).state.inputs = (r.cell i).state.inputs) ∨
      (∀ u ∈ s.plan.sources i, r.status u = .completed) ∧
        (r'.cell i).state.inputs = blockInputs s r i := by
  cases hmove.cellMove i with
  | stays n hc =>
      rw [status, hc] at hi
      exact .inl ⟨hi, by rw [hc]⟩
  | noted hrunning e hc =>
      exact .inl ⟨by rw [hrunning]; rfl, by rw [hc, BlockEnd.note_inputs]⟩
  | started _ hready hc => exact .inr ⟨hready, by rw [hc]⟩
  | completed hrunning _ hc | failed hrunning _ hc =>
      exact .inl ⟨by rw [hrunning]; rfl, by rw [hc]⟩
  | skipped _ hc =>
      rw [status, hc] at hi
      cases hi

namespace Fed

/-- **What a block was given lasts**: the blocks it came from have completed and never change. -/
lemma move (hs : s.Planned) (hsize : r.cells.length = s.size) (h : Fed s r)
    (hmove : Move s r r') : Fed s r' := by
  intro i hi
  have hlt : i < s.size := by
    rw [← hsize, ← hmove.size]
    exact lt_of_status_ne fun hpending => by rw [hpending] at hi; cases hi
  obtain ⟨hsources, hinputs⟩ : (∀ u ∈ s.plan.sources i, r.status u = .completed) ∧
      (r'.cell i).state.inputs = blockInputs s r i := by
    rcases hmove.given hi with ⟨hbegun, hsame⟩ | hgiven
    · exact ⟨(h i hbegun).1, hsame.trans (h i hbegun).2⟩
    · exact hgiven
  have hfinal : ∀ u ∈ s.plan.sources i, ∃ n, r'.cell u = { r.cell u with waiting := n } :=
    fun u hu => hmove.final (by rw [hsources u hu]; rfl)
  refine ⟨fun u hu => ?_, ?_⟩
  · obtain ⟨n, hn⟩ := hfinal u hu
    rw [status, hn]
    exact hsources u hu
  · rw [hinputs]
    refine (blockInputs_congr hs hlt fun u hu => ?_).symm
    obtain ⟨n, hn⟩ := hfinal u hu
    rw [hn]

lemma path (hs : s.Planned) (hsize : r.cells.length = s.size) (h : Fed s r)
    (hpath : Path s r r') : Fed s r' := by
  induction hpath with
  | refl => exact h
  | tail hpath hmove ih => exact ih.move hs ((Path.size hpath).trans hsize) hmove

end Fed

lemma fed_begin (s : RunSetup) (listener : Listener) (cancelled : Bool) :
    Fed s (begin s listener cancelled) := by
  intro i hi
  rw [status_begin] at hi
  cases hi

lemma fed_close (hs : s.Planned) (listener : Listener) (cancelled : Bool)
    (events : List RunEvent) : Fed s (close s (after s (begin s listener cancelled) events)) := by
  have hsound := sound_begin hs listener cancelled
  have hpath := path_after hs events _ hsound
  have hafter := (fed_begin s listener cancelled).path hs hsound.size hpath
  have hsize := (sound_after hs listener cancelled events).size
  exact hafter.path hs hsize (path_close hs hsize)

/-! ## The table of what is due -/

/-- What the blocks before a block and the connections into it write into its inputs, in order. -/
def deliveries (s : RunSetup) (r : Run) (i : Nat) : List (String × Json) :=
  ((s.plan.sources i).map fun u =>
      ((s.block u).normalizedId, .object ((r.cell u).output.getD []))) ++
    (s.workflow.incoming (s.block i).id).filterMap fun c =>
      ((s.workflow.position? c.source).bind fun u => (r.cell u).output).map fun output =>
        (c.targetInput, outputValue output c.sourceOutput)

/-- **The inputs of a block behind others are the table of what is delivered.** -/
theorem blockInputs_eq (h : s.plan.sources i ≠ []) :
    blockInputs s r i = Table.ofList (deliveries s r i) := by
  rw [blockInputs, if_neg (by simpa using h), Table.ofList, deliveries, List.foldl_append,
    List.foldl_map, List.foldl_filterMap, sourceInputs]
  refine List.foldl_ext _ _ _ fun ms c _ => ?_
  rw [deliver, ← Workflow.position?]
  cases (s.workflow.position? c.source).bind fun u => (r.cell u).output <;> rfl

section Delivered

variable (hs : s.Planned) (hsize : r.cells.length = s.size) (hdelivers : Delivers r)

include hs hsize hdelivers

/-- The source of a connection into a block whose blocks before it have completed. -/
lemma exists_source_state (hi : i < s.size)
    (hsources : ∀ u ∈ s.plan.sources i, r.status u = .completed) {c : Connection}
    (hc : c ∈ s.workflow.incoming (s.block i).id) :
    ∃ u ∈ s.plan.sources i, s.workflow.position? c.source = some u ∧
      (stateTable s r).get? c.source = some (r.cell u).state ∧
      (r.cell u).output = some (r.cell u).state.outputs := by
  obtain ⟨u, hu, hposition⟩ := hs.exists_source hi hc
  have hlt : u < s.size := Workflow.position?_lt hposition
  refine ⟨u, hu, hposition, ?_, ?_⟩
  · rw [(hs.position?_iff hlt).mp hposition]
    exact get?_stateTable hs hsize hlt
  · rw [hdelivers u, if_pos (hsources u hu)]

/-- **What is delivered to a block is what it is due.** -/
theorem mem_deliveries_iff (hi : i < s.size)
    (hsources : ∀ u ∈ s.plan.sources i, r.status u = .completed) :
    (key, v) ∈ deliveries s r i ↔ Due s.workflow (stateTable s r) (s.block i) key v := by
  have hsource := fun c hc => exists_source_state hs hsize hdelivers hi hsources (c := c) hc
  rw [deliveries, List.mem_append, List.mem_map, List.mem_filterMap]
  constructor
  · rintro (⟨u, hu, heq⟩ | ⟨c, hc, heq⟩)
    · obtain ⟨hlt, hfeeds⟩ := (hs.mem_sources_iff hi).mp hu
      rw [hdelivers u, if_pos (hsources u hu)] at heq
      cases heq
      exact .upstream (List.mem_of_getElem? (RunSetup.block_mem hlt)) hfeeds
        (get?_stateTable hs hsize hlt)
    · obtain ⟨u, -, hposition, hstate, houtput⟩ := hsource c hc
      rw [hposition, Option.bind_some, houtput] at heq
      cases heq
      exact .carried hc hstate (Connection.carries_iff.mpr rfl)
  · intro hdue
    cases hdue with
    | @carried c a v hc ha hv =>
        obtain ⟨u, -, hposition, hstate, houtput⟩ := hsource c hc
        rw [hstate] at ha
        cases ha
        refine .inr ⟨c, hc, ?_⟩
        rw [hposition, Option.bind_some, houtput, Connection.carries_iff.mp hv]
        rfl
    | @upstream source a hmem hfeeds ha =>
        obtain ⟨u, hu⟩ := List.mem_iff_getElem?.mp hmem
        have hlt : u < s.size := (List.getElem?_eq_some_iff.mp hu).1
        obtain rfl : s.block u = source := Option.some.inj ((RunSetup.block_mem hlt).symm.trans hu)
        have hsources' := (hs.mem_sources_iff hi).mpr ⟨hlt, hfeeds⟩
        rw [get?_stateTable hs hsize hlt] at ha
        cases ha
        refine .inl ⟨u, hsources', ?_⟩
        rw [hdelivers u, if_pos (hsources u hsources')]
        rfl

end Delivered

/-- **Nothing due to a block is lost exactly if no name is due two different values**, in any run
and for every block behind others that starts.  All blocks before it have completed, and nothing
but what is due is among its inputs.  Whether connections cannot collide is seen before a run. -/
theorem inputs_delivered (hs : s.Planned) (listener : Listener) (cancelled : Bool)
    (events : List RunEvent)
    (hstarted : i ∈ (after s (begin s listener cancelled) events).started)
    (hbehind : s.workflow.incoming (s.block i).id ≠ []) :
    let states := (conclude s (after s (begin s listener cancelled) events)).blockStates
    let due := Due s.workflow states (s.block i)
    ∃ b, states.get? (s.block i).id = some b ∧
      (∀ c ∈ s.workflow.incoming (s.block i).id,
        ∃ a, states.get? c.source = some a ∧ a.status = .completed) ∧
      (∀ key v, b.inputs.get? key = some v → due key v) ∧
      ((∀ key v, due key v → b.inputs.get? key = some v) ↔
        ∀ key v v', due key v → due key v' → v = v') ∧
      (s.workflow.PortsApart (s.block i) → ∀ key v, due key v → b.inputs.get? key = some v) := by
  intro states due
  have hsound := sound_after hs listener cancelled events
  have hdelivers := delivers_close hs listener cancelled events
  have hfed := fed_close hs listener cancelled events
  have hbegun := (hsound.started i).mp hstarted
  have hi : i < s.size := by
    rw [← hsound.size]
    exact lt_of_status_ne fun hpending => by rw [hpending] at hbegun; cases hbegun
  have hsize := length_close hs hsound.size
  obtain ⟨hsources, hinputs⟩ := hfed i (by
    rcases status_close_of_isBegun hs hsound.size hi hbegun with h | h <;> rw [h] <;> rfl)
  have hsource := fun c hc => exists_source_state hs hsize hdelivers hi hsources (c := c) hc
  -- what is due is what is delivered, and the inputs are the table of that
  have hdue : ∀ key v, (key, v) ∈ deliveries s _ i ↔ due key v := fun key v =>
    mem_deliveries_iff hs hsize hdelivers hi hsources
  have hne : s.plan.sources i ≠ [] := by
    obtain ⟨c, hc⟩ := List.exists_mem_of_ne_nil _ hbehind
    obtain ⟨u, hu, -⟩ := hsource c hc
    exact List.ne_nil_of_mem hu
  rw [blockInputs_eq hne] at hinputs
  have hheld : (∀ key v, due key v →
      ((close s (after s (begin s listener cancelled) events)).cell i).state.inputs.get? key =
        some v) ↔ ∀ key v v', due key v → due key v' → v = v' := by
    simp only [hinputs, ← hdue]
    exact Table.forall_get?_ofList_iff
  refine ⟨_, get?_blockStates hs hsound.size hi, fun c hc => ?_, fun key v h => ?_, hheld,
    fun hports => hheld.mpr fun key v v' => Due.unique hs.wellFormed.normalizedIds hports⟩
  · obtain ⟨u, hu, -, hstate, -⟩ := hsource c hc
    exact ⟨_, hstate, hsources u hu⟩
  · rw [hinputs] at h
    exact (hdue key v).mp (Table.mem_of_get?_ofList h)

/-- Two blocks side by side and one behind both, which it receives under two names. -/
def merge (input : String) : RunSetup :=
  { workflow :=
      { blocks := ["left", "right", "join"].map fun id =>
          { id, normalizedId := id, config := .variable {} }
        connections :=
          [.between "left" "join", (Connection.between "right" "join").joining "output" input] }
    plan := ⟨3, [(0, 2), (1, 2)], [1, 0, 2]⟩
    executionId := "run"
    trigger := [] }

/-- A run of it, in which both blocks deliver a text of their own. -/
def mergeEvents : List RunEvent :=
  let delivered (v : Json) : BlockEnd := { result := .ok { outputs := [("value", v)] } }
  [.proceeds, .proceeds, .returns 0 (delivered (.text "l")), .returns 1 (delivered (.text "r")),
    .joins 0, .proceeds, .joins 1, .proceeds, .returns 2 (delivered .null), .joins 2]

/-- The states of its blocks in the end. -/
def mergeStates (input : String) : Table BlockState :=
  (conclude (merge input) (after (merge input) (begin (merge input) {} false)
    mergeEvents)).blockStates

lemma merge_portsApart : (merge "other").workflow.PortsApart ((merge "other").block 2) where
  distinct := by decide
  unnamed c hc source hsource _ := by
    have hall : ∀ c ∈ (merge "other").workflow.incoming ((merge "other").block 2).id,
        ∀ source ∈ (merge "other").workflow.blocks, c.targetInput ≠ source.normalizedId := by
      decide
    exact hall c hc source hsource

/-- Two connections into two inputs: both values are there, and the outputs of each block. -/
theorem inputs_delivered_apart :
    (merge "other").Planned ∧
      2 ∈ (after (merge "other") (begin (merge "other") {} false) mergeEvents).started ∧
      (merge "other").workflow.incoming "join" ≠ [] ∧
      ∃ b, (mergeStates "other").get? "join" = some b ∧
        b.inputs.get? "input" = some (.object [("value", .text "l")]) ∧
        b.inputs.get? "other" = some (.object [("value", .text "r")]) ∧
        b.inputs.get? "left" = some (.object [("value", .text "l")]) := by
  have hplanned : (merge "other").Planned := rfl
  have hstarted :
      2 ∈ (after (merge "other") (begin (merge "other") {} false) mergeEvents).started := by decide
  have hbehind : (merge "other").workflow.incoming ((merge "other").block 2).id ≠ [] := by decide
  have hleft : ((mergeStates "other").get? "left").map BlockState.outputs =
      some [("value", .text "l")] := by cbv
  have hright : ((mergeStates "other").get? "right").map BlockState.outputs =
      some [("value", .text "r")] := by cbv
  obtain ⟨left, hleft, hl⟩ := Option.map_eq_some_iff.mp hleft
  obtain ⟨right, hright, hr⟩ := Option.map_eq_some_iff.mp hright
  obtain ⟨b, hb, -, -, -, hports⟩ :=
    inputs_delivered hplanned {} false mergeEvents hstarted hbehind
  have hdue := hports merge_portsApart
  refine ⟨hplanned, hstarted, hbehind, b, hb, hdue "input" _ ?_, hdue "other" _ ?_,
    hdue "left" _ ?_⟩
  · rw [← hl]
    exact .carried (c := .between "left" "join") (by decide) hleft (.whole (by rw [hl]; rfl) rfl)
  · rw [← hr]
    exact .carried (c := (Connection.between "right" "join").joining "output" "other")
      (by decide) hright (.whole (by rw [hr]; rfl) rfl)
  · have hmem : (merge "other").block 0 ∈ (merge "other").workflow.blocks := List.mem_cons_self
    rw [← hl]
    exact .upstream hmem ⟨.between "left" "join", by decide, rfl, rfl⟩ hleft

/-- **Two connections into one input**: the value of the first one is lost. -/
theorem inputs_lost :
    (merge "input").Planned ∧
      2 ∈ (after (merge "input") (begin (merge "input") {} false) mergeEvents).started ∧
      ∃ b, (mergeStates "input").get? "join" = some b ∧
        b.inputs.get? "input" = some (.object [("value", .text "r")]) ∧
        ¬ ∀ key v, Due (merge "input").workflow (mergeStates "input") ((merge "input").block 2)
          key v → b.inputs.get? key = some v := by
  have hleft : ((mergeStates "input").get? "left").map BlockState.outputs =
      some [("value", .text "l")] := by cbv
  have hjoin : (((mergeStates "input").get? "join").map fun b => b.inputs.get? "input") =
      some (some (.object [("value", .text "r")])) := by cbv
  obtain ⟨left, hleft, hl⟩ := Option.map_eq_some_iff.mp hleft
  obtain ⟨b, hb, hinput⟩ := Option.map_eq_some_iff.mp hjoin
  refine ⟨rfl, by decide, b, hb, hinput, fun hall => ?_⟩
  have hlost := hall "input" (.object left.outputs)
    (.carried (c := .between "left" "join") (by decide) hleft (.whole (by rw [hl]; rfl) rfl))
  rw [hinput, hl] at hlost
  exact absurd hlost (by simp)

end Run

end Blockflow
