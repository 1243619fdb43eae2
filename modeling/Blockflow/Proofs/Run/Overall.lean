import Blockflow.Proofs.Run.Cancellation
import Blockflow.Proofs.Run.Ledger

/-!
# What a run as a whole comes to

The status of a run is read off the number of its completed blocks, and the error of a failed run
off the first failed block in the order of the plan.  That there is such a block is not obvious:
blocks may be lost, and a run in which everything was skipped would have nothing to report.  But
every plan has an entry, every entry is started, and what was started completes or fails.

* `Run.Opened` — every entry of the plan was started or is to be started.
* `Run.Explained` — every failed block says why it failed.
* **`conclude_overall`** — the status and the error of a run that nobody cancelled.
* `Run.Thwarted` — a block of a cancelled run that cannot complete any more.
* **`conclude_of_all_completed`** — a run all of whose blocks completed: it was cancelled after
  the last of them returned, if at all, and is reported as cancelled in that case.
-/

namespace Blockflow

namespace Run

variable {s : RunSetup} {r₀ r r' : Run} {i : Nat}

/-! ## Entries -/

/-- Every plan has an entry: the first block in its order. -/
lemma exists_entry (hs : s.Planned) : ∃ i, i ∈ s.plan.entries := by
  have hpos : 0 < s.size := List.length_pos_iff.mpr hs.wellFormed.nonempty
  cases horder : s.plan.order with
  | nil =>
      have hmem : 0 ∈ s.plan.order := hs.lawful.mem_order.mpr hpos
      rw [horder] at hmem
      cases hmem
  | cons i rest =>
      have hi : i ∈ s.plan.order := horder ▸ List.mem_cons_self
      refine ⟨i, hs.lawful.mem_entries.mpr ⟨hs.lawful.mem_order.mp hi, ?_⟩⟩
      refine List.eq_nil_iff_forall_not_mem.mpr fun u hu => ?_
      -- a source would have to stand before the first block
      have hrank := hs.lawful.rank_lt (hs.lawful.mem_sources.mp hu)
      rw [Plan.rank, Plan.rank, horder, List.idxOf_cons_self] at hrank
      exact Nat.not_lt_zero _ hrank

/-- **Every entry was started or is to be started.** -/
def Opened (s : RunSetup) (r : Run) : Prop :=
  ∀ i ∈ s.plan.entries, i ∈ r.started ∨ .start i ∈ r.chores

lemma opened_begin (s : RunSetup) (listener : Listener) (cancelled : Bool) :
    Opened s (begin s listener cancelled) :=
  fun _ hi => Or.inr (List.mem_map_of_mem hi)

/-- **Every event keeps a run opened**: a start is a chore until it is done. -/
lemma Opened.of_effect (h : Opened s r) {event : RunEvent} (heffect : Effect s r event r') :
    Opened s r' := by
  intro i hi
  rcases h i hi with hstarted | hchore
  · exact Or.inl (started_subset heffect hstarted)
  · cases heffect with
    | idle | returned | lost | cancelled | ticked => exact Or.inr hchore
    | completed => exact Or.inr (List.mem_append_left _ hchore)
    | failed =>
        rw [chores_fail]
        exact Or.inr hchore
    | started hchores =>
        rw [hchores] at hchore
        rcases List.mem_cons.mp hchore with heq | hrest
        · obtain rfl := Chore.start.inj heq
          exact Or.inl (List.mem_append_right _ (List.mem_singleton_self i))
        · exact Or.inr hrest
    | counted hchores _ | released hchores _ _ _ =>
        rw [hchores] at hchore
        exact Or.inr ((List.mem_cons.mp hchore).resolve_left nofun)

lemma opened_after (s : RunSetup) (listener : Listener) (cancelled : Bool)
    (events : List RunEvent) : Opened s (after s (begin s listener cancelled) events) :=
  after_invariant (fun r event h => h.of_effect (step_effect s r event)) events _
    (opened_begin s listener cancelled)

/-- What has begun completes or fails, at the latest when the run is closed. -/
lemma status_close_of_isBegun (hs : s.Planned) (hsize : r.cells.length = s.size) (hi : i < s.size)
    (hbegun : (r.status i).isBegun) :
    (close s r).status i = .completed ∨ (close s r).status i = .failed := by
  rw [status, cell_close hs hsize hi]
  rw [status] at hbegun
  cases hstatus : (r.cell i).state.status with
  | running => exact Or.inr (by rw [Cell.settled, if_pos hstatus])
  | completed =>
      rw [Cell.settled_of_isTerminal r.now (by rw [hstatus]; rfl)]
      exact Or.inl hstatus
  | failed =>
      rw [Cell.settled_of_isTerminal r.now (by rw [hstatus]; rfl)]
      exact Or.inr hstatus
  | pending => rw [hstatus] at hbegun; cases hbegun
  | skipped => rw [hstatus] at hbegun; cases hbegun

/-- **In a drained run some block completes or fails.** -/
lemma exists_ended (hs : s.Planned) (hsound : Sound s r) (h : Opened s r) (hdrained : r.isDrained) :
    ∃ i < s.size, (close s r).status i = .completed ∨ (close s r).status i = .failed := by
  obtain ⟨i, hi⟩ := exists_entry hs
  have hlt : i < s.size := (hs.lawful.mem_entries.mp hi).1
  have hchores : r.chores = [] := by
    simp only [isDrained, Bool.and_eq_true, List.isEmpty_iff] at hdrained
    exact hdrained.1.1
  have hstarted : i ∈ r.started := (h i hi).resolve_right (by rw [hchores]; exact List.not_mem_nil)
  exact ⟨i, hlt, status_close_of_isBegun hs hsound.size hlt ((hsound.started i).mp hstarted)⟩

/-! ## Reasons -/

/-- **Every failed block says why.** -/
def Explained (r : Run) : Prop :=
  ∀ i, r.status i = .failed →
    ∃ message kind, (r.cell i).state.error = some message ∧ (r.cell i).state.errorKind = some kind

/-- Only a failure fails a block. -/
lemma Move.failed (hmove : Move s r r') (hi : r'.status i = .failed) :
    r.status i = .failed ∨ ∃ e : Error,
      (r'.cell i).state.error = some e.message ∧ (r'.cell i).state.errorKind = some e.kind := by
  cases hmove.cellMove i with
  | stays n hc =>
      rw [status, hc] at hi
      exact Or.inl hi
  | noted _ e hc =>
      rw [status, hc, BlockEnd.note_status] at hi
      exact Or.inl hi
  | failed _ e hc => exact Or.inr ⟨e, by rw [hc], by rw [hc]⟩
  | started _ _ hc | completed _ _ hc | skipped _ hc =>
      rw [status, hc] at hi
      cases hi

namespace Explained

lemma move (h : Explained r) (hmove : Move s r r') : Explained r' := by
  intro i hi
  rcases hmove.failed hi with hbefore | ⟨e, herror, hkind⟩
  · -- what has failed stays as it is
    obtain ⟨n, hn⟩ := hmove.final (j := i) (by rw [hbefore]; rfl)
    rw [hn]
    exact h i hbefore
  · exact ⟨_, _, herror, hkind⟩

lemma path (h : Explained r) (hpath : Path s r r') : Explained r' := by
  induction hpath with
  | refl => exact h
  | tail _ hmove ih => exact ih.move hmove

end Explained

lemma explained_close (hs : s.Planned) (listener : Listener) (cancelled : Bool)
    (events : List RunEvent) :
    Explained (close s (after s (begin s listener cancelled) events)) := by
  have hsound := sound_begin hs listener cancelled
  have hbegin : Explained (begin s listener cancelled) := by
    intro i hi
    rw [status_begin] at hi
    cases hi
  refine (hbegin.path (path_after hs events _ hsound)).path (path_close hs ?_)
  exact (sound_after hs listener cancelled events).size

/-! ## Counting completed blocks -/

lemma forall_mem_cells {p : Cell → Prop} (hsize : r.cells.length = s.size) :
    (∀ c ∈ r.cells, p c) ↔ ∀ i < s.size, p (r.cell i) := by
  rw [cells_eq r, hsize, List.forall_mem_map]
  simp only [List.mem_range]

lemma completedCount_eq_length_iff (hsize : r.cells.length = s.size) :
    r.completedCount = r.cells.length ↔ ∀ i < s.size, r.status i = .completed := by
  rw [completedCount, List.countP_eq_length, forall_mem_cells hsize]
  simp [status]

lemma completedCount_eq_zero_iff (hsize : r.cells.length = s.size) :
    r.completedCount = 0 ↔ ∀ i < s.size, r.status i ≠ .completed := by
  rw [completedCount, List.countP_eq_zero, forall_mem_cells hsize]
  simp [status]

/-! ## The status and the error -/

/-- The status of an uncancelled run, from what is true of its blocks. -/
lemma overallStatus_cases (hs : s.Planned) (hsize : r.cells.length = s.size) :
    (r.overallStatus false = .completed ↔ ∀ i < s.size, r.status i = .completed) ∧
      (r.overallStatus false = .failed ↔ ∀ i < s.size, r.status i ≠ .completed) ∧
      (r.overallStatus false = .partialFailure ↔
        (∃ i < s.size, r.status i = .completed) ∧ ∃ i < s.size, r.status i ≠ .completed) := by
  have hpos : 0 < s.size := List.length_pos_iff.mpr hs.wellFormed.nonempty
  have hall := completedCount_eq_length_iff hsize
  have hnone := completedCount_eq_zero_iff hsize
  rw [overallStatus, if_neg Bool.false_ne_true]
  split_ifs with hcount hzero
  · have hall := hall.mp hcount
    refine ⟨by simpa using hall, ?_, ?_⟩
    · simpa using ⟨0, hpos, hall 0 hpos⟩
    · simpa using fun _ _ _ => hall
  · have hnone := hnone.mp hzero
    refine ⟨?_, by simpa using hnone, ?_⟩
    · simpa using ⟨0, hpos, hnone 0 hpos⟩
    · simpa using fun i hi hcompleted => absurd hcompleted (hnone i hi)
  · rw [hall] at hcount
    rw [hnone] at hzero
    push Not at hcount hzero
    refine ⟨by simpa using hcount, by simpa using hzero, ?_⟩
    simpa using ⟨hzero, hcount⟩

/-- The first failed block, and what stands before it. -/
lemma firstFailed?_eq_some_iff :
    firstFailed? s r = some i ↔ r.status i = .failed ∧
      ∃ front back, s.plan.order = front ++ i :: back ∧ ∀ j ∈ front, r.status j ≠ .failed := by
  rw [firstFailed?, List.find?_eq_some_iff_append]
  simp

/-- **Where nothing completed there is a first failed block.** -/
lemma exists_firstFailed (hs : s.Planned) (hsound : Sound s r) (hopened : Opened s r)
    (hdrained : r.isDrained) (hnone : ∀ i < s.size, (close s r).status i ≠ .completed) :
    ∃ i, firstFailed? s (close s r) = some i := by
  obtain ⟨k, hk, hended⟩ := exists_ended hs hsound hopened hdrained
  have hfailed : (close s r).status k = .failed := hended.resolve_left (hnone k hk)
  rw [← Option.isSome_iff_exists, firstFailed?, List.find?_isSome]
  exact ⟨k, hs.lawful.mem_order.mpr hk, by simpa using hfailed⟩

/-- What the result of an uncancelled run says of the whole. -/
lemma conclude_of_uncancelled (h : r.cancelled = false) :
    (conclude s r).status = (close s r).overallStatus false ∧
      ((conclude s r).error, (conclude s r).errorKind) = overallError s (close s r) false := by
  have hresult : conclude s r = result s (close s r) false := by rw [conclude, h]
  rw [hresult]
  exact ⟨rfl, rfl⟩

lemma finalStatus_eq_some_iff (hs : s.Planned) (hsize : r.cells.length = s.size) (hi : i < s.size)
    {b : BlockStatus} : finalStatus s r i = some b ↔ (close s r).status i = b := by
  rw [finalStatus_eq hs hsize hi, Option.some_inj]

/-- **The status and the error of a run that nobody cancelled**, whatever its blocks came to, in
whatever order they returned, and whichever of them were lost.  When nothing is left to do:

* the run has completed if all blocks have, it has failed if none has, and anything else is a
  partial failure;
* only a failed run has an error, and its message and its kind are those of the failed block that
  comes first in the order of the plan; there always is one. -/
theorem conclude_overall (hs : s.Planned) (listener : Listener) {events : List RunEvent}
    (huncancelled : .cancels ∉ events)
    (hdrained : (after s (begin s listener false) events).isDrained) :
    let last := after s (begin s listener false) events
    let e := conclude s last
    ((e.status = .completed ↔ ∀ i < s.size, finalStatus s last i = some .completed) ∧
      (e.status = .failed ↔ ∀ i < s.size, finalStatus s last i ≠ some .completed) ∧
      (e.status = .partialFailure ↔
        (∃ i < s.size, finalStatus s last i = some .completed) ∧
          ∃ i < s.size, finalStatus s last i ≠ some .completed)) ∧
      (e.status ≠ .failed → e.error = none ∧ e.errorKind = none) ∧
      (e.status = .failed → ∃ front i back b message kind,
        s.plan.order = front ++ i :: back ∧
          (∀ j ∈ front, finalStatus s last j ≠ some .failed) ∧
          e.blockStates.get? (s.block i).id = some b ∧
          b.status = .failed ∧ b.error = some message ∧ b.errorKind = some kind ∧
          e.error = some ("block " ++ (s.block i).id ++ " failed: " ++ message) ∧
          e.errorKind = some kind) := by
  intro last e
  have hsound : Sound s last := sound_after hs listener false events
  have hsize : last.cells.length = s.size := hsound.size
  have hcancelled : last.cancelled = false := cancelled_after events _ huncancelled
  have hclosed : (close s last).cells.length = s.size := length_close hs hsize
  have hfinal : ∀ i < s.size, ∀ b, finalStatus s last i = some b ↔ (close s last).status i = b :=
    fun i hi b => finalStatus_eq_some_iff hs hsize hi
  obtain ⟨hstatus, herror⟩ := conclude_of_uncancelled (s := s) hcancelled
  obtain ⟨hall, hnone, hsome⟩ := overallStatus_cases hs hclosed
  rw [← hstatus] at hall hnone hsome
  refine ⟨⟨hall.trans ?_, hnone.trans ?_, hsome.trans (and_congr ?_ ?_)⟩, fun hne => ?_,
    fun hstopped => ?_⟩
  · exact forall₂_congr fun i hi => (hfinal i hi _).symm
  · exact forall₂_congr fun i hi => not_congr (hfinal i hi _).symm
  · exact exists_congr fun i => and_congr_right fun hi => (hfinal i hi _).symm
  · exact exists_congr fun i => and_congr_right fun hi => not_congr (hfinal i hi _).symm
  · rw [overallError, ← hstatus, if_pos hne] at herror
    exact Prod.mk.inj herror
  · obtain ⟨i, hfirst⟩ := exists_firstFailed hs hsound (opened_after s listener false events)
      hdrained (hnone.mp hstopped)
    obtain ⟨hi, front, back, horder, hfront⟩ := firstFailed?_eq_some_iff.mp hfirst
    obtain ⟨message, kind, hmessage, hkind⟩ := explained_close hs listener false events i hi
    have hlt : ∀ j ∈ front ++ i :: back, j < s.size :=
      fun j hj => hs.lawful.mem_order.mp (horder ▸ hj)
    rw [overallError, ← hstatus, if_neg (not_not.mpr hstopped), if_neg Bool.false_ne_true,
      hfirst] at herror
    obtain ⟨herror, herrorKind⟩ := Prod.mk.inj herror
    refine ⟨front, i, back, ((close s last).cell i).state, message, kind, horder,
      fun j hj => ?_, get?_blockStates hs hsize (hlt i (by simp)), hi, hmessage, hkind, ?_, ?_⟩
    · exact fun h => hfront j hj ((hfinal j (hlt j (List.mem_append_left _ hj)) _).mp h)
    · rw [herror, hmessage, Option.getD_some]
    · rw [herrorKind, hkind]

/-- Two blocks in a row, of which the first one is lost: nothing completes, and the run reports
the block that was lost. -/
theorem conclude_overall_lost :
    let events : List RunEvent := [.proceeds, .loses 0]
    let last := after RunSetup.pipeline (begin RunSetup.pipeline {} false) events
    RunSetup.pipeline.Planned ∧ .cancels ∉ events ∧ last.isDrained ∧
      (conclude RunSetup.pipeline last).status = .failed ∧
      ∃ i message, (conclude RunSetup.pipeline last).error =
        some ("block " ++ (RunSetup.pipeline.block i).id ++ " failed: " ++ message) := by
  intro events last
  have huncancelled : .cancels ∉ events := by simp [events]
  have hdrained : last.isDrained := by decide
  obtain ⟨⟨_, hfailed, _⟩, _, hreport⟩ :=
    conclude_overall RunSetup.planned_pipeline {} huncancelled hdrained
  have hstatus : (conclude RunSetup.pipeline last).status = .failed := hfailed.mpr (by decide)
  obtain ⟨_, i, _, _, message, _, _, _, _, _, _, _, herror, _⟩ := hreport hstatus
  exact ⟨RunSetup.planned_pipeline, huncancelled, hdrained, hstatus, i, message, herror⟩

/-! ## Cancellations that come too late -/

/-- **A block of a cancelled run that cannot complete any more**: it has not completed, and has not
returned with success. -/
def Thwarted (s : RunSetup) (r : Run) (i : Nat) : Prop :=
  r.status i ≠ .completed ∧
    ∀ e, (i, e) ∈ r.returned → ∃ failure, e.failure? s.authoritative = some failure

lemma Halted.refl (h : Sound s r) (hcancelled : r.cancelled = true) : Halted s r r :=
  ⟨h, hcancelled, fun _ hi => hi, fun _ hi => Or.inl hi⟩

namespace Thwarted

/-- What does not complete the block, and adds no success to what it returned. -/
lemma mono (h : Thwarted s r i) (hstatus : r'.status i = .completed → r.status i = .completed)
    (hreturned : ∀ e, (i, e) ∈ r'.returned → (i, e) ∈ r.returned ∨
      ∃ failure, e.failure? s.authoritative = some failure) : Thwarted s r' i :=
  ⟨fun hcompleted => h.1 (hstatus hcompleted),
    fun e he => (hreturned e he).elim (h.2 e) fun hfailure => hfailure⟩

/-- **Every event of a cancelled run keeps a thwarted block thwarted.** -/
theorem of_effect (hs : s.Planned) (hhalted : Halted s r₀ r) (h : Thwarted s r i)
    {event : RunEvent} (heffect : Effect s r event r') : Thwarted s r' i := by
  refine h.mono (fun hcompleted => ?_) (hhalted.returned_of_effect heffect)
  cases heffect with
  | idle | returned | lost | cancelled | ticked => exact hcompleted
  | @completed j e hchores hmem hend =>
      rw [status_complete (hhalted.sound.lt_collected hmem), status_collected] at hcompleted
      split_ifs at hcompleted with hij
      · subst hij
        -- it would have returned with success
        obtain ⟨failure, hfailure⟩ := h.2 e hmem
        rw [hend] at hfailure
        cases hfailure
      · exact hcompleted
  | @failed j e failure hchores hmem hend =>
      rw [(hhalted.sound.collected hmem).status_fail_eq_completed_iff hs
        (hhalted.sound.running_collected hmem), status_collected] at hcompleted
      exact hcompleted
  | @started j rest hchores =>
      have hlt : j < r.cells.length := by
        rw [hhalted.sound.size]
        exact (hhalted.sound.entry_of_start hs hchores).1
      rw [status_start (r := { r with chores := rest }) hlt] at hcompleted
      split_ifs at hcompleted
      exact hcompleted
  | counted _ _ =>
      rw [status_counted] at hcompleted
      exact hcompleted
  | released _ _ _ hcancelled =>
      rw [hhalted.cancelled] at hcancelled
      cases hcancelled

lemma after (hs : s.Planned) (events : List RunEvent) : ∀ r, Halted s r₀ r → Thwarted s r i →
    Thwarted s (after s r events) i := by
  induction events with
  | nil => exact fun _ _ h => h
  | cons event events ih =>
      intro r hhalted h
      have heffect := step_effect s r event
      exact ih _ (hhalted.of_effect hs heffect) (h.of_effect hs hhalted heffect)

/-- A thwarted block has not completed in the end, either: closing a run completes nothing. -/
lemma status_close (hs : s.Planned) (hsize : r.cells.length = s.size) (hi : i < s.size)
    (h : Thwarted s r i) : (close s r).status i ≠ .completed := by
  have hne : (r.cell i).state.status ≠ .completed := h.1
  rw [status, cell_close hs hsize hi, Cell.settled]
  split_ifs
  · simp
  · rw [Cell.status_skipped]
    split_ifs
    · decide
    · exact hne

end Thwarted

/-- **A run all of whose blocks completed**, whatever happened in it.  It has completed without an
error, unless it was cancelled; it was not cancelled at its beginning, and whenever it was
cancelled, every block had completed or had returned with success.  A cancellation that comes so
late harms no block, and still fails the run. -/
theorem conclude_of_all_completed (hs : s.Planned) (listener : Listener) (cancelled : Bool)
    (events : List RunEvent)
    (hall : ∀ i < s.size,
      finalStatus s (after s (begin s listener cancelled) events) i = some .completed) :
    let last := after s (begin s listener cancelled) events
    let e := conclude s last
    (last.cancelled = false → e.status = .completed ∧ e.error = none ∧ e.errorKind = none) ∧
      (last.cancelled = true → e.status = .failed ∧
        e.error = some Error.cancelled.message ∧ e.errorKind = some .cancelled) ∧
      cancelled = false ∧
      ∀ front back, events = front ++ .cancels :: back → ∀ i < s.size,
        let signal := after s (begin s listener cancelled) front
        signal.status i = .completed ∨
          ∃ x, (i, x) ∈ signal.returned ∧ x.failure? s.authoritative = none := by
  intro last e
  have hsize : last.cells.length = s.size := (sound_after hs listener cancelled events).size
  have hclosed : (close s last).cells.length = s.size := length_close hs hsize
  have hpos : 0 < s.size := List.length_pos_iff.mpr hs.wellFormed.nonempty
  have hcompleted : ∀ i < s.size, (close s last).status i = .completed :=
    fun i hi => (finalStatus_eq_some_iff hs hsize hi).mp (hall i hi)
  refine ⟨fun hno => ?_, fun hyes => ?_, ?_, fun front back hevents i hi => ?_⟩
  · obtain ⟨hstatus, herror⟩ := conclude_of_uncancelled (s := s) hno
    rw [(overallStatus_cases hs hclosed).1.mpr hcompleted] at hstatus
    rw [overallError, (overallStatus_cases hs hclosed).1.mpr hcompleted] at herror
    exact ⟨hstatus, Prod.mk.inj herror⟩
  · have hresult : e = result s (close s last) true := by rw [← hyes]; rfl
    rw [hresult, result, overallError, overallStatus, if_pos rfl]
    exact ⟨rfl, rfl, rfl⟩
  · -- in a run cancelled at its beginning every block is thwarted
    rw [← Bool.not_eq_true]
    rintro rfl
    have hbegin : Halted s (begin s listener true) (begin s listener true) :=
      .refl (sound_begin hs listener true) rfl
    have hthwarted : Thwarted s (begin s listener true) 0 := by
      refine ⟨by rw [status_begin]; decide, fun x hx => ?_⟩
      exact absurd hx (by simp [begin, initial])
    exact (Thwarted.after hs events _ hbegin hthwarted).status_close hs hsize hpos
      (hcompleted 0 hpos)
  · intro signal
    by_contra hnot
    rw [not_or] at hnot
    have hhalted : Halted s signal (step s signal .cancels) :=
      halted_cancels (sound_after hs listener cancelled front)
    have hthwarted : Thwarted s (step s signal .cancels) i := by
      refine ⟨hnot.1, fun x hx => ?_⟩
      rw [← Option.isSome_iff_exists, ← Option.ne_none_iff_isSome]
      exact fun hnone => hnot.2 ⟨x, hx, hnone⟩
    have hlast : last = after s (step s signal .cancels) back := by
      rw [← after_cons, ← after_append, ← hevents]
    refine Thwarted.status_close hs hsize hi ?_ (hcompleted i hi)
    rw [hlast]
    exact hthwarted.after hs back _ hhalted

/-- Two blocks in a row; the run is cancelled when both have completed. -/
example :
    let last := after RunSetup.pipeline (begin RunSetup.pipeline {} false)
      [.proceeds, .returns 0 { result := .ok {} }, .joins 0, .proceeds,
        .returns 1 { result := .ok {} }, .joins 1, .cancels]
    (∀ i < 2, finalStatus RunSetup.pipeline last i = some .completed) ∧
      (conclude RunSetup.pipeline last).status = .failed := by
  decide

end Run

end Blockflow
