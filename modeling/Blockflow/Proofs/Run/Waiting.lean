import Blockflow.Proofs.Run.Ending
import Blockflow.Proofs.Run.Inputs

/-!
# What blocks wait for

A block starts when its counter comes to zero, and its inputs are made of outputs that are then
taken to be there.  Both rest on the counters being exact, although a block that completed tells
the blocks behind it one at a time: some of them may have started while others have not been told.

* `RunSetup.upstream` — the blocks directly before a block, as the connections draw them.
* `unmet_eq_card`, `waiting_proceeds` — what a counter counts, and that it is never lowered in vain.
* `Run.blockInputs?` — the inputs of a block, or none where an output is missing.
* **`started_of_effect`** — what an event starts, and what is there by then.
* **`waits_exactly`** — counters, starts and progress in every run.
-/

namespace Blockflow

instance Workflow.Feeds.decidable (w : Workflow) (a b : String) : Decidable (w.Feeds a b) :=
  inferInstanceAs (Decidable (∃ c ∈ w.connections, c.source = a ∧ c.target = b))

namespace RunSetup

variable {s : RunSetup} {u i : Nat}

/-- **The blocks directly before a block**, each of them once, however many connections lead from
it. -/
def upstream (s : RunSetup) (i : Nat) : Finset Nat :=
  {u ∈ Finset.range s.size | s.workflow.Feeds (s.block u).id (s.block i).id}

lemma Planned.mem_upstream_iff (h : s.Planned) (hi : i < s.size) :
    u ∈ s.upstream i ↔ u ∈ s.plan.sources i := by
  rw [upstream, Finset.mem_filter, Finset.mem_range, h.mem_sources_iff hi]

end RunSetup

namespace Run

variable {s : RunSetup} {r r' : Run} {i : Nat}

/-! ## Counters -/

/-- What is unmet, counted over the connections. -/
lemma unmet_eq_card (hs : s.Planned) (hi : i < s.size) :
    r.unmet s i = {u ∈ s.upstream i | r.status u ≠ .completed}.card := by
  have hset : {u ∈ s.upstream i | r.status u ≠ .completed} =
      ((s.plan.sources i).filter fun u => r.status u ≠ .completed).toFinset := by
    ext u
    simp [hs.mem_upstream_iff hi]
  rw [hset, List.toFinset_card_of_nodup ((hs.lawful.nodup_sources i).filter _), unmet,
    List.countP_eq_length_filter]

/-- **A counter that is lowered is above zero**, for it counts the block that is told of. -/
lemma waiting_proceeds (hs : s.Planned) (h : Sound s r) {rest : List Chore}
    (hchores : r.chores = .release i :: rest) :
    ((step s r .proceeds).cell i).waiting + 1 = (r.cell i).waiting := by
  have hi := h.lt_of_release hs hchores
  have hlt : i < r.cells.length := by rw [h.size]; exact hi
  have hpos : 0 < (r.cell i).waiting := by
    rw [h.waiting i hi, hchores, List.count_cons_self]
    omega
  have hstep : step s r .proceeds = release s { r with chores := rest } i := by
    simp only [step, hchores, perform]
  have hlowered : ((step s r .proceeds).cell i).waiting = (r.cell i).waiting - 1 := by
    rw [hstep, release_eq]
    split_ifs
    · rw [cell_start_self (by rw [length_counted]; exact hlt), cell_counted_self hlt]
    · rw [cell_counted_self hlt]
  omega

/-! ## Inputs -/

/-- A fold that may fail at each element succeeds if it fails at none. -/
lemma foldlM_eq_some_iff {α β : Type} {f : β → α → Option β} {g : β → α → β} {p : α → Prop}
    (hf : ∀ b a b', f b a = some b' ↔ p a ∧ b' = g b a) (l : List α) : ∀ b b',
      l.foldlM f b = some b' ↔ (∀ a ∈ l, p a) ∧ b' = l.foldl g b := by
  induction l with
  | nil => exact fun b b' => by simp [eq_comm]
  | cons a l ih =>
      intro b b'
      simp only [List.foldlM_cons, Option.bind_eq_bind, Option.bind_eq_some_iff, hf, ih,
        List.forall_mem_cons, List.foldl_cons]
      constructor
      · rintro ⟨_, ⟨ha, rfl⟩, hl, rfl⟩
        exact ⟨⟨ha, hl⟩, rfl⟩
      · rintro ⟨⟨ha, hl⟩, rfl⟩
        exact ⟨_, ⟨ha, rfl⟩, hl, rfl⟩

/-- Puts the outputs of a block among the inputs of a block behind it. -/
def addSource? (s : RunSetup) (r : Run) (ms : Json.Object) (u : Nat) : Option Json.Object :=
  (r.cell u).output.map fun output => Table.insert ms (s.block u).normalizedId (.object output)

/-- Puts what a connection carries among the inputs of its target. -/
def deliver? (s : RunSetup) (r : Run) (ms : Json.Object) (c : Connection) : Option Json.Object :=
  ((s.workflow.position? c.source).bind fun u => (r.cell u).output).map fun output =>
    Table.insert ms c.targetInput (outputValue output c.sourceOutput)

/-- **The inputs of a block, with nothing put in the place of an output that is missing**: there
are none then. -/
def blockInputs? (s : RunSetup) (r : Run) (i : Nat) : Option Json.Object :=
  if (s.plan.sources i).isEmpty then some (entryInputs s.trigger)
  else do
    let ms ← (s.plan.sources i).foldlM (addSource? s r) []
    (s.workflow.incoming (s.block i).id).foldlM (deliver? s r) ms

lemma addSource?_eq_some_iff (ms : Json.Object) (u : Nat) (ms' : Json.Object) :
    addSource? s r ms u = some ms' ↔ (∃ outputs, (r.cell u).output = some outputs) ∧
      ms' = Table.insert ms (s.block u).normalizedId (.object ((r.cell u).output.getD [])) := by
  rw [addSource?]
  cases (r.cell u).output <;> simp [eq_comm]

lemma deliver?_eq_some_iff (ms : Json.Object) (c : Connection) (ms' : Json.Object) :
    deliver? s r ms c = some ms' ↔
      (∃ outputs, ((s.workflow.position? c.source).bind fun u => (r.cell u).output) =
        some outputs) ∧ ms' = deliver s r ms c := by
  rw [deliver?, deliver, ← Workflow.position?]
  cases (s.workflow.position? c.source).bind fun u => (r.cell u).output <;> simp [eq_comm]

/-- **Nothing is put in the place of an output exactly if all of them are there.** -/
theorem blockInputs?_eq_some_iff (hs : s.Planned) (hi : i < s.size) {ms : Json.Object} :
    blockInputs? s r i = some ms ↔
      (∀ u ∈ s.plan.sources i, ∃ outputs, (r.cell u).output = some outputs) ∧
        ms = blockInputs s r i := by
  rw [blockInputs?, blockInputs]
  split_ifs with hentry
  · have hnone : s.plan.sources i = [] := by simpa using hentry
    simp [hnone, eq_comm]
  · rw [Option.bind_eq_bind, Option.bind_eq_some_iff]
    simp only [foldlM_eq_some_iff addSource?_eq_some_iff, foldlM_eq_some_iff deliver?_eq_some_iff]
    constructor
    · rintro ⟨_, ⟨hsources, rfl⟩, -, rfl⟩
      exact ⟨hsources, rfl⟩
    · rintro ⟨hsources, rfl⟩
      refine ⟨_, ⟨hsources, rfl⟩, fun c hc => ?_, rfl⟩
      obtain ⟨u, hu, hposition⟩ := hs.exists_source hi hc
      rw [hposition]
      exact hsources u hu

/-! ## Starts -/

/-- **An event starts one block at most**: a pending one, once all blocks before it have completed,
on the inputs that their outputs make. -/
theorem started_of_effect (hs : s.Planned) (h : Sound s r) {event : RunEvent}
    (heffect : Effect s r event r') :
    r'.started = r.started ∨ ∃ i < s.size, r'.started = r.started ++ [i] ∧
      r.status i = .pending ∧ (∀ u ∈ s.plan.sources i, r.status u = .completed) ∧
      (r'.cell i).state.inputs = blockInputs s r i := by
  cases heffect with
  | idle | returned | completed | counted | lost | cancelled | ticked => exact Or.inl rfl
  | failed =>
      rw [started_fail]
      exact Or.inl rfl
  | @started i rest hchores =>
      obtain ⟨hi, hpending, hnone⟩ := h.entry_of_start hs hchores
      have hlt : i < r.cells.length := by rw [h.size]; exact hi
      refine Or.inr ⟨i, hi, rfl, hpending, ?_, ?_⟩
      · rw [hnone]
        exact fun u hu => absurd hu List.not_mem_nil
      · rw [cell_start_self (r := { r with chores := rest }) hlt]
        rfl
  | @released i rest hchores hwaiting hpending _ =>
      have hi := h.lt_of_release hs hchores
      have hlt : i < (r.counted i rest).cells.length := by
        rw [(h.counted hchores).size]
        exact hi
      have hready := unmet_eq_zero_iff.mp (h.unmet_counted hs hchores hwaiting)
      rw [status_counted] at hpending
      refine Or.inr ⟨i, hi, rfl, hpending, fun u hu => ?_, ?_⟩
      · rw [← hready u hu, status_counted]
      · rw [cell_start_self hlt]
        refine blockInputs_congr hs hi fun u _ => ?_
        obtain ⟨n, hn⟩ := cell_counted (r := r) (i := i) rest u
        rw [hn]

/-- **Every block is started at most once.** -/
theorem nodup_started_after (hs : s.Planned) (listener : Listener) (cancelled : Bool)
    (events : List RunEvent) : (after s (begin s listener cancelled) events).started.Nodup := by
  have hbegin : (begin s listener cancelled).started.Nodup := List.nodup_nil
  refine (after_invariant (p := fun r => Sound s r ∧ r.started.Nodup) (fun r event h => ?_) events
    _ ⟨sound_begin hs listener cancelled, hbegin⟩).2
  obtain ⟨hsound, hnodup⟩ := h
  have heffect := step_effect s r event
  refine ⟨hsound.of_effect hs heffect, ?_⟩
  rcases started_of_effect hs hsound heffect with hsame | ⟨i, -, hmore, hpending, -, -⟩
  · rw [hsame]
    exact hnodup
  · rw [hmore, ← List.concat_eq_append]
    exact hnodup.concat (hsound.not_mem_started hpending)

/-! ## Progress -/

/-- **A run that is not cancelled and has lost no block is live.** -/
lemma live_after (hs : s.Planned) (events : List RunEvent) : ∀ r, Sound s r →
    (r.cancelled = false → Live s r) → (∀ i, .loses i ∉ events) →
      (after s r events).cancelled = false → Live s (after s r events) := by
  induction events with
  | nil => exact fun _ _ h _ huncancelled => h huncancelled
  | cons event events ih =>
      intro r hsound h hkept huncancelled
      have heffect := step_effect s r event
      refine ih _ (hsound.of_effect hs heffect) (fun hstill => ?_)
        (fun i hi => hkept i (List.mem_cons_of_mem _ hi)) huncancelled
      have hcancels : event ≠ .cancels := by
        rintro rfl
        cases hstill
      have hloses : ∀ i, event ≠ .loses i := by
        rintro i rfl
        exact hkept i List.mem_cons_self
      rw [cancelled_of_effect heffect hcancels] at hstill
      exact (h hstill).of_effect hs hsound hcancels hloses heffect

/-- Closing a run changes nothing where every block has come to its end. -/
lemma close_eq_self (hs : s.Planned) (h : ∀ i < s.size, (r.status i).isTerminal) :
    close s r = r := by
  have hsettle : ∀ i ∈ s.plan.order, settle s r i = r := by
    intro i hi
    have hterminal := h i (hs.lawful.mem_order.mp hi)
    rw [settle]
    split
    · next hrunning => rw [hrunning] at hterminal; cases hterminal
    · next hpending => rw [hpending] at hterminal; cases hterminal
    · rfl
  rw [close]
  generalize s.plan.order = l at hsettle
  induction l with
  | nil => rfl
  | cons i l ih =>
      rw [List.foldl_cons, hsettle i List.mem_cons_self]
      exact ih fun j hj => hsettle j (List.mem_cons_of_mem i hj)

/-! ## Every run -/

/-- **What blocks wait for**, in every run of a workflow that has a plan, whatever its blocks come
to, in whatever order they return, and whenever it is cancelled:

* between two ends, the counter of a block is the number of blocks directly before it that have
  not completed;
* whenever a counter is lowered it is above zero;
* no block is started twice, and an event starts one block at most, at a time when all blocks
  directly before it have left their outputs; of these its inputs are made, and nothing is put in
  the place of one;
* while the run is not cancelled and no block was lost, a pending block has a block directly before
  it that is pending or running; so when nothing is left to do every block has come to its end, and
  closing the run changes nothing. -/
theorem waits_exactly (hs : s.Planned) (listener : Listener) (cancelled : Bool)
    (events : List RunEvent) :
    let r := after s (begin s listener cancelled) events
    (r.chores = [] → ∀ i < s.size,
      (r.cell i).waiting = {u ∈ s.upstream i | r.status u ≠ .completed}.card) ∧
    (∀ i rest, r.chores = .release i :: rest →
      ((step s r .proceeds).cell i).waiting + 1 = (r.cell i).waiting) ∧
    r.started.Nodup ∧
    (∀ event, (step s r event).started = r.started ∨
      ∃ i, (step s r event).started = r.started ++ [i] ∧ i ∉ r.started ∧
        (∀ u ∈ s.upstream i, ∃ outputs, (r.cell u).output = some outputs) ∧
        blockInputs? s r i = some ((step s r event).cell i).state.inputs) ∧
    (r.cancelled = false → (∀ i, .loses i ∉ events) →
      (r.chores = [] → ∀ i < s.size, r.status i = .pending →
        ∃ u ∈ s.upstream i, r.status u = .pending ∨ r.status u = .running) ∧
      (r.isDrained → (∀ i < s.size, r.status i ≠ .pending ∧ r.status i ≠ .running) ∧
        close s r = r)) := by
  intro r
  have hsound : Sound s r := sound_after hs listener cancelled events
  have hdelivers : Delivers r := delivers_after hs listener cancelled events
  refine ⟨fun hchores i hi => ?_, fun i rest hchores => waiting_proceeds hs hsound hchores,
    nodup_started_after hs listener cancelled events, fun event => ?_,
    fun huncancelled hkept => ?_⟩
  · rw [hsound.waiting i hi, hchores, List.count_nil, Nat.add_zero, unmet_eq_card hs hi]
  · refine (started_of_effect hs hsound (step_effect s r event)).imp_right ?_
    rintro ⟨i, hi, hmore, hpending, hready, hinputs⟩
    have houtputs : ∀ u ∈ s.plan.sources i, ∃ outputs, (r.cell u).output = some outputs :=
      fun u hu => ⟨_, (hdelivers u).trans (if_pos (hready u hu))⟩
    refine ⟨i, hmore, hsound.not_mem_started hpending, fun u hu => ?_, ?_⟩
    · exact houtputs u ((hs.mem_upstream_iff hi).mp hu)
    · exact (blockInputs?_eq_some_iff hs hi).mpr ⟨houtputs, hinputs⟩
  · have hlive : Live s r := by
      refine live_after hs events _ (sound_begin hs listener cancelled) (fun hno => ?_) hkept
        huncancelled
      obtain rfl : cancelled = false := hno
      exact live_begin hs listener
    refine ⟨fun hchores i hi hpending => ?_, fun hdrained => ?_⟩
    · obtain ⟨u, hu, hahead⟩ := hlive.exists_ahead hs hsound hchores hi hpending
      exact ⟨u, (hs.mem_upstream_iff hi).mpr hu, hahead⟩
    · have hterminal : ∀ i < s.size, (r.status i).isTerminal :=
        fun i hi => hlive.isTerminal hs hsound hdrained hi
      have hended : ∀ i < s.size, r.status i ≠ .pending ∧ r.status i ≠ .running := by
        intro i hi
        rcases BlockStatus.isTerminal_iff.mp (hterminal i hi) with h | h | h <;> simp [h]
      exact ⟨hended, close_eq_self hs hterminal⟩

/-- Two blocks side by side and one behind both.  When the first one has completed, the last one
waits for the other; when both have, it starts on what they left, and nothing is left over. -/
theorem waits_exactly_merge :
    let s := merge "other"
    let halfway := after s (begin s {} false) (mergeEvents.take 6)
    let ready := after s (begin s {} false) (mergeEvents.take 7)
    let last := after s (begin s {} false) mergeEvents
    s.Planned ∧
      (halfway.chores = [] ∧ halfway.status 2 = .pending ∧ (halfway.cell 2).waiting = 1 ∧
        ∃ u ∈ s.upstream 2, halfway.status u = .pending ∨ halfway.status u = .running) ∧
      (ready.chores = [.release 2] ∧ ((step s ready .proceeds).cell 2).waiting + 1 = 1 ∧
        (step s ready .proceeds).started = ready.started ++ [2] ∧
        blockInputs? s ready 2 = some ((step s ready .proceeds).cell 2).state.inputs) ∧
      last.isDrained ∧ last.started.Nodup ∧ close s last = last := by
  intro s halfway ready last
  have hplanned : s.Planned := rfl
  have hkept : ∀ i, .loses i ∉ mergeEvents := by simp [mergeEvents]
  obtain ⟨hcounter, -, -, -, hlive⟩ := waits_exactly hplanned {} false (mergeEvents.take 6)
  obtain ⟨-, hlowered, -, hstarts, -⟩ := waits_exactly hplanned {} false (mergeEvents.take 7)
  obtain ⟨-, -, honce, -, hended⟩ := waits_exactly hplanned {} false mergeEvents
  have hidle : halfway.chores = [] := by decide
  have hpending : halfway.status 2 = .pending := by decide
  have htold : ready.chores = [.release 2] := by decide
  have hstarted : (step s ready .proceeds).started = ready.started ++ [2] := by decide
  have hdrained : last.isDrained := by decide
  have hahead := (hlive (by decide) fun i hi => hkept i (List.mem_of_mem_take hi)).1 hidle
  refine ⟨hplanned, ⟨hidle, hpending, ?_, hahead 2 (by decide) hpending⟩,
    ⟨htold, ?_, hstarted, ?_⟩, hdrained, honce, ((hended (by decide) hkept).2 hdrained).2⟩
  · exact (hcounter hidle 2 (by decide)).trans (by decide)
  · exact (hlowered 2 [] htold).trans (by decide)
  · rcases hstarts .proceeds with hsame | ⟨i, hmore, -, -, hinputs⟩
    · cases List.append_right_eq_self.mp (hstarted.symm.trans hsame)
    · obtain rfl : i = 2 :=
        List.singleton_inj.mp (List.append_cancel_left (hmore.symm.trans hstarted))
      dsimp only [ready]
      exact hinputs

end Run

end Blockflow
