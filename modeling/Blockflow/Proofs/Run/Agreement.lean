import Blockflow.Proofs.Run.Ending
import Blockflow.Proofs.Run.Matching

/-!
# The order in which blocks return does not matter

Blocks run side by side and return in any order.  If each of them comes to what it comes to on its
inputs, and nothing is cancelled or lost, a run always ends, and it ends like the evaluation of
its blocks one at a time.

* `Run.Follows` — the events of such a run.
* **`Run.Agrees`** — the simulation: the cells match the evaluation, whatever runs is at work, what
  is pending still waits for something, and the usage is that of the blocks that have ended.
* `Agrees.of_effect` — every event keeps it, block by block.
* **`conclude_eq_sequential`** — the end of all such runs.
-/

namespace Blockflow

/-- Whether a block in this state came to an end of its own. -/
def BlockStatus.hasEnded : BlockStatus → Bool
  | .completed | .failed => true
  | .pending | .running | .skipped => false

namespace Run

variable {s : RunSetup} {outcome : Outcomes} {r r' : Run} {i j : Nat}

/-- **The events of a run in which every block comes to what it comes to on its inputs**, and
which nobody cancels. -/
def Follows (outcome : Outcomes) (r : Run) : RunEvent → Prop
  | .returns i e => e = outcome i (r.cell i).state.inputs
  | .joins _ | .proceeds | .ticks _ => True
  | .loses _ | .cancels => False

/-! ## Usage -/

/-- The usage of the blocks that have ended, as the evaluation has it. -/
def spent (s : RunSetup) (outcome : Outcomes) (r : Run) : TokenUsage :=
  ∑ i ∈ Finset.range s.size,
    if (r.status i).hasEnded then cost s outcome (sequential s outcome) i else 0

lemma spent_congr (h : ∀ j, (r'.status j).hasEnded = (r.status j).hasEnded) :
    spent s outcome r' = spent s outcome r :=
  Finset.sum_congr rfl fun j _ => by rw [h j]

/-- A block that ends adds its cost. -/
lemma spent_of_ends (hi : i < s.size) (hbefore : (r.status i).hasEnded = false)
    (hafter : (r'.status i).hasEnded = true)
    (hother : ∀ j, j ≠ i → (r'.status j).hasEnded = (r.status j).hasEnded) :
    spent s outcome r' = spent s outcome r + cost s outcome (sequential s outcome) i := by
  have hmem : i ∈ Finset.range s.size := Finset.mem_range.mpr hi
  have hrest : ∀ j ∈ (Finset.range s.size).erase i,
      (if (r'.status j).hasEnded then cost s outcome (sequential s outcome) j else 0) =
        if (r.status j).hasEnded then cost s outcome (sequential s outcome) j else 0 :=
    fun j hj => by rw [hother j (Finset.ne_of_mem_erase hj)]
  rw [spent, spent, ← Finset.add_sum_erase _ _ hmem, ← Finset.add_sum_erase _ _ hmem, hbefore,
    hafter, Finset.sum_congr rfl hrest]
  simp [add_comm]

/-! ## The simulation -/

/-- **A run that agrees with the evaluation of its blocks one at a time.** -/
structure Agrees (s : RunSetup) (outcome : Outcomes) (r : Run) : Prop where
  sound : Sound s r
  ends : ∀ i e, (i, e) ∈ r.returned → e = outcome i (r.cell i).state.inputs
  cells : Matched s outcome r
  usage : r.usage = spent s outcome r

lemma agrees_begin (hs : s.Planned) (outcome : Outcomes) (listener : Listener) :
    Agrees s outcome (begin s listener false) := by
  refine ⟨sound_begin hs listener false, fun i e he => absurd he (by simp [begin, initial]),
    fun i hi => ?_, ?_⟩
  · rw [cell_begin listener false hi]
    exact ⟨rfl, rfl⟩
  · refine (Finset.sum_eq_zero fun i _ => ?_).symm
    rw [status_begin]
    rfl

namespace Agrees

/-- What a block returned is what the evaluation has for it. -/
lemma end_eq (h : Agrees s outcome r) {e : BlockEnd} (hmem : (i, e) ∈ r.returned) :
    e = endOf s outcome (sequential s outcome) i := by
  have hrunning := h.sound.mem_returned hmem
  rw [h.ends i e hmem]
  exact (h.cells i (h.sound.lt_of_running hrunning)).endOf hrunning

/-- What a block that returned has cost. -/
lemma usage_eq (h : Agrees s outcome r) {e : BlockEnd} (hmem : (i, e) ∈ r.returned) :
    e.usage = cost s outcome (sequential s outcome) i := by
  have hrunning := h.sound.mem_returned hmem
  have hready := ((h.cells i (h.sound.lt_of_running hrunning)).of_running hrunning).1
  rw [cost, if_pos hready, h.end_eq hmem]

/-- **A block that starts** runs on the inputs of the evaluation. -/
lemma start (hs : s.Planned) (h : Agrees s outcome r) (hi : i < s.size)
    (hpending : r.status i = .pending)
    (hready : ∀ u ∈ s.plan.sources i, r.status u = .completed) (hsound : Sound s (start s r i)) :
    Agrees s outcome (Run.start s r i) := by
  have hlt : i < r.cells.length := by rw [h.sound.size]; exact hi
  refine ⟨hsound, fun j e he => ?_, h.cells.start hs h.sound.size hpending hready, ?_⟩
  · have hji : j ≠ i := by
      rintro rfl
      have hrunning := h.sound.mem_returned (e := e) he
      rw [hpending] at hrunning
      cases hrunning
    rw [cell_start_of_ne hji]
    exact h.ends j e he
  · show r.usage = _
    rw [h.usage]
    refine (spent_congr fun j => ?_).symm
    by_cases hji : j = i
    · subst hji
      rw [status_start_self hlt, hpending]
      rfl
    · rw [status_start_of_ne hji]

/-- Counting down changes nothing that the evaluation knows of. -/
lemma counted (h : Agrees s outcome r) {rest : List Chore}
    (hchores : r.chores = .release i :: rest) : Agrees s outcome (r.counted i rest) := by
  refine ⟨h.sound.counted hchores, fun j e he => ?_, fun j hj => ?_, ?_⟩
  · obtain ⟨n, hn⟩ := cell_counted (r := r) (i := i) rest j
    rw [hn]
    exact h.ends j e he
  · obtain ⟨n, hn⟩ := cell_counted (r := r) (i := i) rest j
    rw [hn]
    exact (h.cells j hj).recount n
  · show r.usage = _
    rw [h.usage]
    exact (spent_congr fun j => by rw [status_counted]).symm

/-- **A block whose success is written down** comes to its cell of the evaluation. -/
lemma complete (hs : s.Planned) (h : Agrees s outcome r) {e : BlockEnd}
    (hmem : (i, e) ∈ r.returned) (hend : e.failure? s.authoritative = none)
    (hsound : Sound s (complete s (r.collected s i e) i e.delivered)) :
    Agrees s outcome (Run.complete s (r.collected s i e) i e.delivered) := by
  have hrunning := h.sound.mem_returned hmem
  have hi := h.sound.lt_of_running hrunning
  have hlt : i < r.cells.length := by rw [h.sound.size]; exact hi
  have hlt' := h.sound.lt_collected (s := s) hmem
  have hcell : ∀ j, j ≠ i →
      (Run.complete s (r.collected s i e) i e.delivered).cell j = r.cell j := by
    intro j hj
    rw [cell_complete_of_ne hj, cell_collected_of_ne hj]
  refine ⟨hsound, fun j x hx => ?_, fun j hj => ?_, ?_⟩
  · obtain ⟨hx, hne⟩ := List.mem_filter.mp (show (j, x) ∈ r.returned.filter _ from hx)
    rw [hcell j (by simpa using hne)]
    exact h.ends j x hx
  · by_cases hji : j = i
    · subst hji
      rw [cell_complete_self hlt', cell_collected_self hlt]
      exact (h.cells j hi).complete hs hi hrunning (h.end_eq hmem) hend (some r.now)
    · rw [hcell j hji]
      exact h.cells j hj
  · show r.usage + e.usage = _
    rw [h.usage, h.usage_eq hmem]
    refine (spent_of_ends hi ?_ ?_ fun j hj => ?_).symm
    · rw [hrunning]
      rfl
    · rw [status_complete_self hlt']
      rfl
    · rw [status, hcell j hj, status]

/-- **A block whose failure is written down** comes to its cell of the evaluation, and so does
everything that depends on it. -/
lemma fail (hs : s.Planned) (h : Agrees s outcome r) {e : BlockEnd} {failure : Error}
    (hmem : (i, e) ∈ r.returned) (hend : e.failure? s.authoritative = some failure)
    (hsound : Sound s (fail s (r.collected s i e) i failure)) :
    Agrees s outcome (Run.fail s (r.collected s i e) i failure) := by
  have hrunning := h.sound.mem_returned hmem
  have hi := h.sound.lt_of_running hrunning
  have hsize := (h.sound.collected (s := s) hmem).size
  have hlt : i < r.cells.length := by rw [h.sound.size]; exact hi
  have hlt' := h.sound.lt_collected (s := s) hmem
  have hcell : ∀ j, j ≠ i → (Run.fail s (r.collected s i e) i failure).cell j =
      if j ∈ s.plan.descendants i then Cell.skipped (r.cell j) else r.cell j := by
    intro j hj
    rw [cell_fail_of_ne hs hsize failure hj, cell_collected_of_ne hj]
  have hself : Matches s outcome i ((Run.fail s (r.collected s i e) i failure).cell i) := by
    rw [cell_fail_self hs hsize, cell_recordFailure_self hlt', cell_collected_self hlt]
    exact (h.cells i hi).fail hs hi hrunning (h.end_eq hmem) hend (some r.now)
  have hfailed : (Run.fail s (r.collected s i e) i failure).status i = .failed :=
    status_fail_self hs hsize failure hlt'
  have hincomplete : (sequential s outcome).status i ≠ .completed := by
    have hstatus : ((Run.fail s (r.collected s i e) i failure).cell i).state.status = .failed :=
      hfailed
    obtain ⟨hstate, _⟩ := hself.of_isTerminal (by rw [hstatus]; rfl)
    rw [status, ← hstate]
    exact fun hcompleted => by cases hstatus.symm.trans hcompleted
  refine ⟨hsound, fun j x hx => ?_, fun j hj => ?_, ?_⟩
  · rw [returned_fail] at hx
    obtain ⟨hx, hne⟩ := List.mem_filter.mp (show (j, x) ∈ r.returned.filter _ from hx)
    have hinputs : (Cell.skipped (r.cell j)).state.inputs = (r.cell j).state.inputs := by
      rw [Cell.skipped]
      split_ifs <;> rfl
    rw [hcell j (by simpa using hne), h.ends j x hx]
    split_ifs
    · rw [hinputs]
    · rfl
  · by_cases hji : j = i
    · subst hji
      exact hself
    · rw [hcell j hji]
      split_ifs with hd
      · exact (h.cells j hj).skipped hs hj (not_isReady_of_mem_descendants hs hincomplete hd)
      · exact h.cells j hj
  · rw [usage_fail]
    show r.usage + e.usage = _
    rw [h.usage, h.usage_eq hmem]
    refine (spent_of_ends hi ?_ ?_ fun j hj => ?_).symm
    · rw [hrunning]
      rfl
    · rw [hfailed]
      rfl
    · rw [status, hcell j hj, status]
      split_ifs
      · rw [Cell.status_skipped]
        split_ifs with hpending
        · rw [hpending]
          rfl
        · rfl
      · rfl

/-- **Every event of such a run keeps it in agreement with the evaluation.** -/
theorem of_effect (hs : s.Planned) (h : Agrees s outcome r) (hcancelled : r.cancelled = false)
    {event : RunEvent} (hfollows : Follows outcome r event) (heffect : Effect s r event r') :
    Agrees s outcome r' := by
  have hsound := h.sound.of_effect hs heffect
  cases heffect with
  | idle _ => exact h
  | @returned i e hi =>
      refine ⟨hsound, fun j x hx => ?_, h.cells, h.usage⟩
      rcases List.mem_append.mp hx with hx | hx
      · exact h.ends j x hx
      · obtain ⟨rfl, rfl⟩ := Prod.mk.inj (List.mem_singleton.mp hx)
        rw [hcancelled, BlockEnd.under_false]
        exact hfollows
  | completed _ hmem hend => exact h.complete hs hmem hend hsound
  | failed _ hmem hend => exact h.fail hs hmem hend hsound
  | @started i rest hchores =>
      obtain ⟨hlt, hpending, hnone⟩ := h.sound.entry_of_start hs hchores
      have hrest : Agrees s outcome { r with chores := rest } :=
        ⟨(h.sound.tail_start hchores).1, h.ends, h.cells, h.usage⟩
      refine hrest.start hs hlt hpending (fun u hu => ?_) hsound
      rw [hnone] at hu
      cases hu
  | @counted i rest hchores _ => exact h.counted hchores
  | @released i rest hchores hwaiting hpending _ =>
      have hlt := h.sound.lt_of_release hs hchores
      have hready := unmet_eq_zero_iff.mp (h.sound.unmet_counted hs hchores hwaiting)
      exact (h.counted hchores).start hs hlt hpending hready hsound
  | lost _ => exact absurd hfollows id
  | cancelled => exact absurd hfollows id
  | ticked => exact ⟨hsound, h.ends, h.cells, h.usage⟩

end Agrees

/-! ## Whole runs -/

lemma Follows.uncancelled {event : RunEvent} (h : Follows outcome r event) :
    event ≠ .cancels ∧ ∀ i, event ≠ .loses i := by
  constructor
  · rintro rfl
    exact h
  · rintro i rfl
    exact h

/-- What such a run keeps. -/
lemma agrees_step (hs : s.Planned) {event : RunEvent} (h : Agrees s outcome r ∧ Live s r)
    (hfollows : Follows outcome r event) :
    Agrees s outcome (step s r event) ∧ Live s (step s r event) := by
  have heffect := step_effect s r event
  obtain ⟨hcancels, hloses⟩ := hfollows.uncancelled
  exact ⟨h.1.of_effect hs h.2.uncancelled hfollows heffect,
    h.2.of_effect hs h.1.sound hcancels hloses heffect⟩

lemma agrees_after (hs : s.Planned) (listener : Listener) {events : List RunEvent}
    (h : Along s (Follows outcome) (begin s listener false) events) :
    Agrees s outcome (after s (begin s listener false) events) ∧
      Live s (after s (begin s listener false) events) :=
  after_induction (p := fun r => Agrees s outcome r ∧ Live s r)
    (fun _ _ h hfollows => agrees_step hs h hfollows) events _
    ⟨agrees_begin hs outcome listener, live_begin hs listener⟩ h

/-- **Such a run can always go on to its end**: while it is not drained something can happen, and
each time less is left to do. -/
theorem exists_isDrained (hs : s.Planned) : ∀ r, Agrees s outcome r ∧ Live s r →
    ∃ rest, Along s (Follows outcome) r rest ∧ (after s r rest).isDrained := by
  intro r
  induction hn : r.remaining s using Nat.strong_induction_on generalizing r with
  | _ n ih =>
      intro h
      -- one step, and then the rest of the way
      have hgo : ∀ event, event.isWork → r.Enabled event → Follows outcome r event →
          ∃ rest, Along s (Follows outcome) r rest ∧ (after s r rest).isDrained := by
        intro event hwork henabled hfollows
        have hlt := remaining_lt hs h.1.sound hwork henabled (step_effect s r event)
        obtain ⟨rest, halong, hended⟩ :=
          ih _ (hn ▸ hlt) (step s r event) rfl (agrees_step hs h hfollows)
        exact ⟨event :: rest, ⟨hfollows, halong⟩, hended⟩
      cases hdrained : r.isDrained with
      | true => exact ⟨[], trivial, hdrained⟩
      | false =>
          rcases exists_enabled hdrained with hproceeds | ⟨i, hjoins⟩ | ⟨i, hreturns⟩
          · exact hgo .proceeds rfl hproceeds trivial
          · exact hgo (.joins i) rfl hjoins trivial
          · exact hgo (.returns i (outcome i (r.cell i).state.inputs)) rfl (hreturns _) rfl

/-- When everything has ended, everything has been spent. -/
lemma spent_of_isTerminal (hs : s.Planned) (h : Matched s outcome r)
    (hterminal : ∀ i < s.size, (r.status i).isTerminal) :
    spent s outcome r = (sequential s outcome).usage := by
  rw [usage_sequential hs, spent]
  refine Finset.sum_congr rfl fun i hi => ?_
  have hi := Finset.mem_range.mp hi
  obtain ⟨hstate, _⟩ := (h i hi).of_isTerminal (hterminal i hi)
  cases hstatus : r.status i with
  | pending => exact absurd (hstatus ▸ hterminal i hi) nofun
  | running => exact absurd (hstatus ▸ hterminal i hi) nofun
  | completed => exact if_pos rfl
  | failed => exact if_pos rfl
  | skipped =>
      -- a skipped block was not run in the evaluation either
      have hnot : ¬ (sequential s outcome).isReady s i = true := by
        intro hready
        have hq := (cell_sequential_of_isReady hs hi hready).1
        have hskipped : ((sequential s outcome).cell i).state.status = .skipped := by
          rw [← hstate]
          exact hstatus
        rw [hq] at hskipped
        exact BlockEnd.record_status_ne_skipped _ _ _ hskipped
      rw [cost, if_neg hnot]
      rfl

/-- **The order in which blocks return does not matter.**  Take a workflow that has a plan, any
input, and what becomes of each block on each of its inputs.  Whoever listens, and in whatever
order blocks return, are written down and are started:

* the run can always go on to its end;
* when it has come to its end, its result is that of the evaluation of the blocks one at a time
  in the order of the plan, apart from times. -/
theorem conclude_eq_sequential (hs : s.Planned) (outcome : Outcomes) (listener : Listener)
    (events : List RunEvent)
    (hfollows : Along s (Follows outcome) (begin s listener false) events) :
    let r := after s (begin s listener false) events
    (∃ rest, Along s (Follows outcome) r rest ∧ (after s r rest).isDrained) ∧
      (r.isDrained →
        (conclude s r).untimed = (result s (sequential s outcome) false).untimed) := by
  intro r
  have h : Agrees s outcome r ∧ Live s r := agrees_after hs listener hfollows
  refine ⟨exists_isDrained hs r h, fun hdrained => ?_⟩
  obtain ⟨hagrees, hlive⟩ := h
  have hsize := hagrees.sound.size
  have hterminal : ∀ i < s.size, (r.status i).isTerminal :=
    fun i hi => hlive.isTerminal hs hagrees.sound hdrained hi
  have hclose : ∀ i < s.size, (close s r).cell i = r.cell i := by
    intro i hi
    rw [cell_close hs hsize hi, Cell.settled_of_isTerminal r.now (hterminal i hi)]
  have hmatch : ∀ i < s.size,
      (r.cell i).state.untimed = ((sequential s outcome).cell i).state ∧
        (r.cell i).output = ((sequential s outcome).cell i).output :=
    fun i hi => (hagrees.cells i hi).of_isTerminal (hterminal i hi)
  rw [conclude, hlive.uncancelled]
  refine result_congr hs (length_sequential s outcome) (length_close hs hsize) ?_
    (fun i hi => ?_) (fun i hi => ?_) false
  · rw [close_books]
    exact hagrees.usage.trans (spent_of_isTerminal hs hagrees.cells hterminal)
  · rw [hclose i hi, ← (hmatch i hi).1]
    rfl
  · rw [hclose i hi]
    exact (hmatch i hi).2

/-- Two blocks in a row, of which the first one fails: the second one is never run. -/
theorem conclude_eq_sequential_pipeline :
    let outcome : Outcomes := fun _ _ => { result := .error (.internal "no") }
    let events : List RunEvent :=
      [.proceeds, .returns 0 { result := .error (.internal "no") }, .joins 0]
    let r := after RunSetup.pipeline (begin RunSetup.pipeline {} false) events
    RunSetup.pipeline.Planned ∧
      Along RunSetup.pipeline (Follows outcome) (begin RunSetup.pipeline {} false) events ∧
      r.isDrained ∧
      (conclude RunSetup.pipeline r).untimed =
        (result RunSetup.pipeline (sequential RunSetup.pipeline outcome) false).untimed := by
  intro outcome events r
  have hfollows : Along RunSetup.pipeline (Follows outcome) (begin RunSetup.pipeline {} false)
      events := ⟨trivial, rfl, trivial, trivial⟩
  have hdrained : r.isDrained := by decide
  exact ⟨RunSetup.planned_pipeline, hfollows, hdrained,
    (conclude_eq_sequential RunSetup.planned_pipeline outcome {} events hfollows).2 hdrained⟩

end Run

end Blockflow
