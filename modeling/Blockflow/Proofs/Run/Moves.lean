import Blockflow.Proofs.Run.Sound

/-!
# How the blocks of a run move

An event may change several blocks: a failure skips everything behind it.  Taken one at a time,
the changes that anyone sees are few: a running block is noted about, completes or fails, and a
pending one is started or skipped.  Events and the end of a run are paths of such moves, so what
a move keeps holds throughout.

* **`Run.Move`**, `Run.Path` — one change, and several in a row.
* `Run.CellMove`, **`Move.cellMove`** — what a move does to one block.
* `path_effect`, `path_after`, `path_close` — events, runs and the end of a run are paths.
* `Path.final` — what has come to an end stays as it is.
* **`cell_close`** — what the end of a run does to each block.
-/

namespace Blockflow

namespace Run

variable {s : RunSetup} {r r' : Run} {i j : Nat}

/-! ## Moves -/

/-- **One change of what is seen of a run**: of the states and outputs of its blocks, or of what
its listener heard. -/
inductive Move (s : RunSetup) (r : Run) : Run → Prop where
  | keeps {r' : Run} (hsize : r'.cells.length = r.cells.length)
      (hcell : ∀ i, ∃ n, r'.cell i = { r.cell i with waiting := n })
      (hlistener : r'.listener = r.listener) : Move s r r'
  | notes {i : Nat} (hi : r.status i = .running) (e : BlockEnd) : Move s r (noted s r i e)
  | starts {i : Nat} (hi : i < r.cells.length) (hpending : r.status i = .pending)
      (hready : ∀ u ∈ s.plan.sources i, r.status u = .completed) : Move s r (start s r i)
  | completes {i : Nat} (hi : r.status i = .running) (outputs : Json.Object) :
      Move s r (complete s r i outputs)
  | fails {i : Nat} (hi : r.status i = .running) (e : Error) : Move s r (recordFailure s r i e)
  | skips {i : Nat} (hi : i < r.cells.length) (hpending : r.status i = .pending) :
      Move s r (skip s r i)

/-- Several moves in a row. -/
abbrev Path (s : RunSetup) : Run → Run → Prop := Relation.ReflTransGen (Move s)

lemma Move.size (h : Move s r r') : r'.cells.length = r.cells.length := by
  cases h with
  | keeps hsize _ _ => exact hsize
  | notes _ e => exact length_noted e
  | starts _ _ _ => exact length_start
  | completes _ outputs => exact length_complete outputs
  | fails _ e => exact length_recordFailure e
  | skips _ _ => exact length_skip

lemma Path.size (h : Path s r r') : r'.cells.length = r.cells.length := by
  induction h with
  | refl => rfl
  | tail _ hmove ih => rw [hmove.size, ih]

/-- **What a move does to one block**: nothing that is seen, or one of five things, each of them
to a block that is running or pending. -/
inductive CellMove (s : RunSetup) (r : Run) (i : Nat) (c : Cell) : Prop where
  | stays (n : Nat) (hc : c = { r.cell i with waiting := n })
  | noted (hi : r.status i = .running) (e : BlockEnd)
      (hc : c = { r.cell i with state := e.note s.authoritative (r.cell i).state })
  | started (hi : r.status i = .pending)
      (hready : ∀ u ∈ s.plan.sources i, r.status u = .completed)
      (hc : c = { r.cell i with
        state := { (r.cell i).state with
          status := .running
          inputs := blockInputs s r i
          startedAt := some r.now } })
  | completed (hi : r.status i = .running) (outputs : Json.Object)
      (hc : c = { r.cell i with
        state := { (r.cell i).state with
          status := .completed
          completedAt := some r.now
          outputs }
        output := some outputs })
  | failed (hi : r.status i = .running) (e : Error)
      (hc : c = { r.cell i with
        state := { (r.cell i).state with
          status := .failed
          completedAt := some r.now
          error := some e.message
          errorKind := some e.kind } })
  | skipped (hi : r.status i = .pending)
      (hc : c = { r.cell i with state := { (r.cell i).state with status := .skipped } })

/-- **A move changes one block at most.** -/
theorem Move.cellMove (h : Move s r r') (j : Nat) : CellMove s r j (r'.cell j) := by
  have hlt : ∀ {i}, r.status i = .running → i < r.cells.length :=
    fun hi => lt_of_status_ne (by rw [hi]; decide)
  cases h with
  | keeps _ hcell _ =>
      obtain ⟨n, hn⟩ := hcell j
      exact .stays n hn
  | @notes i hi e =>
      rcases eq_or_ne j i with rfl | hj
      · exact .noted hi e (cell_noted_self (hlt hi) e)
      · exact .stays _ (cell_noted_of_ne hj e)
  | @starts i hi hpending hready =>
      rcases eq_or_ne j i with rfl | hj
      · exact .started hpending hready (cell_start_self hi)
      · exact .stays _ (cell_start_of_ne hj)
  | @completes i hi outputs =>
      rcases eq_or_ne j i with rfl | hj
      · exact .completed hi outputs (cell_complete_self (hlt hi) outputs)
      · exact .stays _ (cell_complete_of_ne hj outputs)
  | @fails i hi e =>
      rcases eq_or_ne j i with rfl | hj
      · exact .failed hi e (cell_recordFailure_self (hlt hi) e)
      · exact .stays _ (cell_recordFailure_of_ne hj e)
  | @skips i hi hpending =>
      rcases eq_or_ne j i with rfl | hj
      · exact .skipped hpending (cell_skip_self hi)
      · exact .stays _ (cell_skip_of_ne hj)

/-- A block that has come to its end is not moved. -/
lemma Move.final (h : Move s r r') (hj : (r.status j).isTerminal) :
    ∃ n, r'.cell j = { r.cell j with waiting := n } := by
  cases h.cellMove j with
  | stays n hc => exact ⟨n, hc⟩
  | noted hi | completed hi | failed hi => rw [hi] at hj; cases hj
  | started hi | skipped hi => rw [hi] at hj; cases hj

/-- **What has come to an end stays as it is.** -/
theorem Path.final (h : Path s r r') (hj : (r.status j).isTerminal) :
    ∃ n, r'.cell j = { r.cell j with waiting := n } := by
  induction h with
  | refl => exact ⟨_, rfl⟩
  | tail _ hmove ih =>
      obtain ⟨n, hn⟩ := ih
      obtain ⟨m, hm⟩ := hmove.final (j := j) (by rw [status, hn]; exact hj)
      exact ⟨m, by rw [hm, hn]⟩

/-! ## Paths -/

lemma path_skipPending (hi : i < r.cells.length) : Path s r (skipPending s r i) := by
  rw [skipPending]
  split_ifs with hpending
  · exact .single (.skips hi hpending)
  · exact .refl

lemma path_foldl_skipPending (l : List Nat) : ∀ r : Run, (∀ i ∈ l, i < r.cells.length) →
    Path s r (l.foldl (skipPending s) r) := by
  induction l with
  | nil => exact fun _ _ => .refl
  | cons i l ih =>
      intro r hl
      refine (path_skipPending (hl i List.mem_cons_self)).trans (ih _ fun j hj => ?_)
      rw [length_skipPending]
      exact hl j (List.mem_cons_of_mem i hj)

lemma path_fail (hs : s.Planned) (hsize : r.cells.length = s.size) (hi : r.status i = .running)
    (e : Error) : Path s r (fail s r i e) := by
  refine (Relation.ReflTransGen.single (Move.fails hi e)).trans ?_
  refine path_foldl_skipPending _ _ fun d hd => ?_
  rw [length_recordFailure, hsize]
  exact hs.lawful.descendants_lt hd

/-- A change of other books is a move, too. -/
lemma Move.of_cells (hcells : r'.cells = r.cells) (hlistener : r'.listener = r.listener) :
    Move s r r' :=
  .keeps (by rw [hcells]) (fun i => ⟨_, cell_congr hcells i⟩) hlistener

lemma path_collected (h : Sound s r) {e : BlockEnd} (hmem : (i, e) ∈ r.returned) :
    Path s r (r.collected s i e) := by
  have hkeeps : Move s r { r with returned := r.returned.filter fun x => x.1 ≠ i } :=
    .of_cells rfl rfl
  have hrunning : ({ r with returned := r.returned.filter fun x => x.1 ≠ i } : Run).status i =
      .running := h.mem_returned hmem
  exact (Relation.ReflTransGen.single hkeeps).tail (.notes hrunning e)

lemma move_counted (rest : List Chore) : Move s r (r.counted i rest) :=
  .keeps (length_counted rest) (cell_counted rest) rfl

/-- **An event is a path of moves.** -/
theorem path_effect (hs : s.Planned) (h : Sound s r) {event : RunEvent}
    (heffect : Effect s r event r') : Path s r r' := by
  cases heffect with
  | idle => exact .refl
  | returned _ => exact .single (.of_cells rfl rfl)
  | completed _ hmem _ =>
      exact (path_collected h hmem).tail (.completes (h.running_collected hmem) _)
  | failed _ hmem _ =>
      exact (path_collected h hmem).trans
        (path_fail hs (h.collected hmem).size (h.running_collected hmem) _)
  | @started i rest hchores =>
      obtain ⟨hlt, hpending, hnone⟩ := h.entry_of_start hs hchores
      have hkeeps : Move s r { r with chores := rest } := .of_cells rfl rfl
      refine (Relation.ReflTransGen.single hkeeps).tail (.starts ?_ hpending ?_)
      · rw [h.size]
        exact hlt
      · rw [hnone]
        exact fun u hu => absurd hu List.not_mem_nil
  | counted _ _ => exact .single (move_counted _)
  | @released i rest hchores hwaiting hpending _ =>
      have hcounted := h.counted hchores
      have hlt := h.lt_of_release hs hchores
      refine (Relation.ReflTransGen.single (move_counted rest)).tail (.starts ?_ hpending ?_)
      · rw [hcounted.size]
        exact hlt
      · exact unmet_eq_zero_iff.mp (h.unmet_counted hs hchores hwaiting)
  | lost _ => exact .single (.of_cells rfl rfl)
  | cancelled => exact .single (.of_cells rfl rfl)
  | ticked => exact .single (.of_cells rfl rfl)

theorem path_after (hs : s.Planned) (events : List RunEvent) : ∀ r : Run, Sound s r →
    Path s r (after s r events) := by
  induction events with
  | nil => exact fun _ _ => .refl
  | cons event events ih =>
      intro r h
      have heffect := step_effect s r event
      exact (path_effect hs h heffect).trans (ih _ (h.of_effect hs heffect))

/-! ## The end -/

/-- What a failure without a result looks like. -/
def cutOff : Error := .internal "block task ended without a result"

/-- The cell of a block after the end of a run: a block that was cut off has failed, one that was
never started is skipped. -/
def Cell.settled (now : Timestamp) (c : Cell) : Cell :=
  if c.state.status = .running then
    { c with
      state := { c.state with
        status := .failed
        completedAt := some now
        error := some cutOff.message
        errorKind := some cutOff.kind } }
  else Cell.skipped c

lemma Cell.skipped_of_isTerminal {c : Cell} (h : c.state.status.isTerminal) :
    Cell.skipped c = c := by
  refine if_neg fun hpending => ?_
  rw [hpending] at h
  cases h

lemma Cell.settled_of_isTerminal (now : Timestamp) {c : Cell} (h : c.state.status.isTerminal) :
    Cell.settled now c = c := by
  have hrunning : c.state.status ≠ .running := by
    intro hrunning
    rw [hrunning] at h
    cases h
  rw [Cell.settled, if_neg hrunning, Cell.skipped_of_isTerminal h]

lemma Cell.isTerminal_settled (now : Timestamp) (c : Cell) :
    (Cell.settled now c).state.status.isTerminal := by
  rw [Cell.settled]
  split_ifs with hrunning
  · rfl
  · rw [Cell.status_skipped]
    split_ifs with hpending
    · rfl
    · exact BlockStatus.isTerminal_of_ne hrunning hpending

lemma Cell.settled_skipped (now : Timestamp) (c : Cell) :
    Cell.settled now (Cell.skipped c) = Cell.settled now c := by
  by_cases hpending : c.state.status = .pending
  · have hskipped : (Cell.skipped c).state.status = .skipped := by
      rw [Cell.status_skipped, if_pos hpending]
    rw [Cell.settled_of_isTerminal now (by rw [hskipped]; rfl), Cell.settled, if_neg]
    rw [hpending]
    decide
  · rw [show Cell.skipped c = c from if_neg hpending]

/-- Settling is failing or skipping. -/
lemma settle_eq (s : RunSetup) (r : Run) (i : Nat) :
    settle s r i =
      if r.status i = .running then fail s r i cutOff else skipPending s r i := by
  rw [settle, skipPending]
  cases r.status i <;> rfl

/-- Settling one block settles its cell; the cells of other blocks may be skipped with it. -/
lemma cell_settle (hs : s.Planned) (hsize : r.cells.length = s.size) (hi : i < s.size) (j : Nat) :
    (settle s r i).cell j =
      if j = i then Cell.settled r.now (r.cell j)
      else if r.status i = .running ∧ j ∈ s.plan.descendants i then Cell.skipped (r.cell j)
      else r.cell j := by
  have hlt : i < r.cells.length := by rw [hsize]; exact hi
  rw [settle_eq]
  by_cases hj : j = i
  · subst hj
    rw [if_pos rfl, Cell.settled]
    split_ifs with hrunning hstate hstate
    · rw [cell_fail_self hs hsize, cell_recordFailure_self hlt]
    · exact absurd hrunning hstate
    · exact absurd hstate hrunning
    · exact cell_skipPending_self hlt
  · rw [if_neg hj]
    split_ifs with hrunning hboth hboth
    · rw [cell_fail_of_ne hs hsize _ hj, if_pos hboth.2]
    · rw [cell_fail_of_ne hs hsize _ hj, if_neg fun hd => hboth ⟨hrunning, hd⟩]
    · exact absurd hboth.1 hrunning
    · exact cell_skipPending_of_ne hj

lemma settle_books (i : Nat) :
    settle s r i =
      { r with cells := (settle s r i).cells, listener := (settle s r i).listener } := by
  rw [settle]
  split
  · exact fail_books _
  · rfl
  · rfl

lemma length_settle (i : Nat) : (settle s r i).cells.length = r.cells.length := by
  rw [settle_eq]
  split
  · exact length_fail _
  · exact length_skipPending

lemma path_settle (hs : s.Planned) (hsize : r.cells.length = s.size) (hi : i < s.size) :
    Path s r (settle s r i) := by
  rw [settle_eq]
  split
  · next h => exact path_fail hs hsize h _
  · exact path_skipPending (by rw [hsize]; exact hi)

/-- Settling several blocks: each of them is settled, and the others are left alone or skipped. -/
lemma cell_foldl_settle (hs : s.Planned) (l : List Nat) : ∀ r : Run, r.cells.length = s.size →
    l.Nodup → (∀ i ∈ l, i < s.size) → ∀ j,
      (j ∈ l → (l.foldl (settle s) r).cell j = Cell.settled r.now (r.cell j)) ∧
      (j ∉ l → (l.foldl (settle s) r).cell j = r.cell j ∨
        (l.foldl (settle s) r).cell j = Cell.skipped (r.cell j)) := by
  induction l with
  | nil => exact fun r _ _ _ j => ⟨nofun, fun _ => Or.inl rfl⟩
  | cons i l ih =>
      intro r hsize hnodup hl j
      obtain ⟨hil, hnodup⟩ := List.nodup_cons.mp hnodup
      have hi := hl i List.mem_cons_self
      have hnow : (settle s r i).now = r.now := by rw [settle_books]
      have hcell := cell_settle hs hsize hi j
      obtain ⟨hin, hout⟩ := ih (settle s r i) (by rw [length_settle, hsize]) hnodup
        (fun k hk => hl k (List.mem_cons_of_mem i hk)) j
      rw [hnow] at hin
      rw [List.foldl_cons]
      by_cases hj : j = i
      · subst hj
        refine ⟨fun _ => ?_, fun hno => absurd List.mem_cons_self hno⟩
        -- what is settled already is not changed by what follows
        rw [if_pos rfl] at hcell
        rcases hout hil with h | h
        · rw [h, hcell]
        · rw [h, hcell, Cell.skipped_of_isTerminal (Cell.isTerminal_settled r.now _)]
      · rw [if_neg hj] at hcell
        refine ⟨fun hmem => ?_, fun hno => ?_⟩
        · rw [hin ((List.mem_cons.mp hmem).resolve_left hj), hcell]
          split_ifs
          · exact Cell.settled_skipped _ _
          · rfl
        · have hcases := hout fun hmem => hno (List.mem_cons_of_mem i hmem)
          rw [hcell] at hcases
          split_ifs at hcases
          · rw [Cell.skipped_idem, or_self] at hcases
            exact Or.inr hcases
          · exact hcases

/-- **The end of a run settles every block**, whatever the order. -/
theorem cell_close (hs : s.Planned) (hsize : r.cells.length = s.size) (hi : i < s.size) :
    (close s r).cell i = Cell.settled r.now (r.cell i) := by
  have hmem : ∀ j, j ∈ s.plan.order ↔ j < s.size := fun j => hs.lawful.mem_order
  exact (cell_foldl_settle hs s.plan.order r hsize hs.lawful.nodup
    (fun j hj => (hmem j).mp hj) i).1 ((hmem i).mpr hi)

lemma close_books (s : RunSetup) (r : Run) :
    close s r = { r with cells := (close s r).cells, listener := (close s r).listener } := by
  rw [close]
  generalize s.plan.order = l
  induction l generalizing r with
  | nil => rfl
  | cons i l ih => rw [List.foldl_cons, ih, settle_books]

theorem path_close (hs : s.Planned) (hsize : r.cells.length = s.size) : Path s r (close s r) := by
  have hlt : ∀ i ∈ s.plan.order, i < s.size := fun i hi => hs.lawful.mem_order.mp hi
  rw [close]
  generalize s.plan.order = l at hlt
  induction l generalizing r with
  | nil => exact .refl
  | cons i l ih =>
      refine (path_settle hs hsize (hlt i List.mem_cons_self)).trans (ih ?_ fun j hj => ?_)
      · rw [length_settle, hsize]
      · exact hlt j (List.mem_cons_of_mem i hj)

end Run

end Blockflow
