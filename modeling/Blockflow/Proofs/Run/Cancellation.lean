import Blockflow.Proofs.Run.Results

/-!
# Cancelled runs

A cancellation is a flag that several places look at, each at its own time: a block when it
returns, a release before it starts a block, and the end of the run.  Between them other events
may happen.  Whatever their order, no block completes that had not returned before.

* **`Run.Halted`** — a run after its cancellation: nothing begins but the blocks that were to be
  started at the beginning.
* **`Run.Doomed`** — a block that will fail: its end has failed, or is still to come.
* `Halted.returned_of_effect` — what a block returns from then on is a failure.
* `Halted.of_effect`, `Doomed.of_effect` — every event keeps both.
* **`cancelled_at_any_moment`** — what a cancellation comes to.
-/

namespace Blockflow

namespace Run

variable {s : RunSetup} {r₀ r r' : Run} {i : Nat}

/-- **A run that was cancelled**, seen from the moment of its cancellation. -/
structure Halted (s : RunSetup) (r₀ r : Run) : Prop where
  sound : Sound s r
  cancelled : r.cancelled = true
  starts : ∀ i, .start i ∈ r.chores → .start i ∈ r₀.chores
  running : ∀ i, r.status i = .running → r₀.status i = .running ∨ .start i ∈ r₀.chores

/-- **A block that will not complete**: it has failed, or runs and has not returned with
success. -/
def Doomed (s : RunSetup) (r : Run) (i : Nat) : Prop :=
  r.status i = .failed ∨
    r.status i = .running ∧
      ∀ e, (i, e) ∈ r.returned → ∃ failure, e.failure? s.authoritative = some failure

/-! ## Halted runs -/

lemma halted_cancels (h : Sound s r) : Halted s r (step s r .cancels) :=
  ⟨h.of_cells rfl rfl rfl h.busy_nodup (List.Subset.refl _), rfl,
    fun _ hi => hi, fun _ hi => Or.inl hi⟩

namespace Halted

/-- Where chores and running blocks come from, when cells and chores are changed by an event. -/
lemma mono (h : Halted s r₀ r) (hsound : Sound s r') (hcancelled : r'.cancelled = true)
    (hstarts : ∀ i, .start i ∈ r'.chores → .start i ∈ r.chores)
    (hrunning : ∀ i, r'.status i = .running → r.status i = .running ∨ .start i ∈ r.chores) :
    Halted s r₀ r' := by
  refine ⟨hsound, hcancelled, fun i hi => h.starts i (hstarts i hi), fun i hi => ?_⟩
  rcases hrunning i hi with hi | hi
  · exact h.running i hi
  · exact Or.inr (h.starts i hi)

/-- **Every event keeps a cancelled run halted.** -/
theorem of_effect (hs : s.Planned) (h : Halted s r₀ r) {event : RunEvent}
    (heffect : Effect s r event r') : Halted s r₀ r' := by
  have hsound := h.sound.of_effect hs heffect
  cases heffect with
  | idle => exact h
  | returned _ => exact h.mono hsound h.cancelled (fun _ hi => hi) (fun _ hi => Or.inl hi)
  | @completed i e hchores hmem hend =>
      refine h.mono hsound h.cancelled (fun j hj => ?_) (fun j hj => Or.inl ?_)
      · have hmap : .start j ∈ r.chores ++ (s.plan.targets i).map Chore.release := hj
        simpa using hmap
      · rw [status_complete (h.sound.lt_collected hmem), status_collected] at hj
        split_ifs at hj
        exact hj
  | @failed i e failure hchores hmem hend =>
      have hsize := (h.sound.collected hmem).size
      refine h.mono hsound ?_ (fun j hj => ?_) (fun j hj => Or.inl ?_)
      · rw [cancelled_fail]
        exact h.cancelled
      · rw [chores_fail] at hj
        exact hj
      · rw [status_fail hs hsize _ (h.sound.lt_collected hmem), status_collected] at hj
        split_ifs at hj
        exact hj
  | @started i rest hchores =>
      refine h.mono hsound h.cancelled (fun j hj => ?_) (fun j hj => ?_)
      · have hrest : .start j ∈ rest := hj
        rw [hchores]
        exact List.mem_cons_of_mem _ hrest
      · by_cases hji : j = i
        · subst hji
          rw [hchores]
          exact Or.inr List.mem_cons_self
        · rw [status_start_of_ne hji] at hj
          exact Or.inl hj
  | @counted i rest hchores _ =>
      refine h.mono hsound h.cancelled (fun j hj => ?_) (fun j hj => Or.inl ?_)
      · have hrest : .start j ∈ rest := hj
        rw [hchores]
        exact List.mem_cons_of_mem _ hrest
      · rw [status_counted] at hj
        exact hj
  | released _ _ _ hcancelled =>
      -- a release starts nothing in a cancelled run
      rw [h.cancelled] at hcancelled
      cases hcancelled
  | lost _ => exact h.mono hsound h.cancelled (fun _ hi => hi) (fun _ hi => Or.inl hi)
  | cancelled => exact h.mono hsound rfl (fun _ hi => hi) (fun _ hi => Or.inl hi)
  | ticked => exact h.mono hsound h.cancelled (fun _ hi => hi) (fun _ hi => Or.inl hi)

/-- **What a block returns in a cancelled run is a failure.** -/
lemma returned_of_effect (h : Halted s r₀ r) {event : RunEvent} (heffect : Effect s r event r')
    (e : BlockEnd) (he : (i, e) ∈ r'.returned) :
    (i, e) ∈ r.returned ∨ ∃ failure, e.failure? s.authoritative = some failure := by
  cases heffect with
  | idle | started | counted | released | lost | cancelled | ticked => exact Or.inl he
  | completed => exact Or.inl (List.mem_of_mem_filter he)
  | failed =>
      rw [returned_fail] at he
      exact Or.inl (List.mem_of_mem_filter he)
  | returned _ =>
      rcases List.mem_append.mp he with he | he
      · exact Or.inl he
      · obtain ⟨rfl, rfl⟩ := Prod.mk.inj (List.mem_singleton.mp he)
        rw [h.cancelled]
        exact Or.inr (BlockEnd.exists_failure_under_true s.authoritative _)

lemma after (hs : s.Planned) (h : Halted s r₀ r) (events : List RunEvent) :
    Halted s r₀ (after s r events) :=
  after_invariant (fun r event h => Halted.of_effect hs h (step_effect s r event)) events r h

end Halted

/-! ## Doomed blocks -/

/-- A running block that has not returned is doomed. -/
lemma doomed_of_running (h : Sound s r) (hi : i ∈ r.running) : Doomed s r i := by
  refine Or.inr ⟨h.mem_running hi, fun e he => ?_⟩
  obtain ⟨_, _, hdisj⟩ := List.nodup_append.mp h.busy_nodup
  exact absurd rfl (hdisj i hi i (List.mem_map_of_mem he))

namespace Doomed

lemma not_pending (hd : Doomed s r i) : r.status i ≠ .pending := by
  intro hpending
  rcases hd with hd | ⟨hd, _⟩
  · cases hd.symm.trans hpending
  · cases hd.symm.trans hpending

/-- What does not touch the block, and adds no success to what it returned. -/
lemma mono (hd : Doomed s r i) (hstatus : r'.status i = r.status i)
    (hreturned : ∀ e, (i, e) ∈ r'.returned → (i, e) ∈ r.returned ∨
      ∃ failure, e.failure? s.authoritative = some failure) : Doomed s r' i := by
  rw [Doomed, hstatus]
  refine hd.imp_right fun ⟨hrunning, hall⟩ => ⟨hrunning, fun e he => ?_⟩
  rcases hreturned e he with he | he
  · exact hall e he
  · exact he

/-- **Every event of a cancelled run keeps a doomed block doomed.** -/
theorem of_effect (hs : s.Planned) (h : Halted s r₀ r) (hd : Doomed s r i) {event : RunEvent}
    (heffect : Effect s r event r') : Doomed s r' i := by
  have hreturned := h.returned_of_effect heffect (i := i)
  cases heffect with
  | idle | returned | lost | cancelled | ticked => exact hd.mono rfl hreturned
  | @completed j e hchores hmem hend =>
      by_cases hij : i = j
      · subst hij
        -- it returned with success, which a doomed block does not
        rcases hd with hfailed | ⟨_, hall⟩
        · rw [h.sound.mem_returned hmem] at hfailed
          cases hfailed
        · obtain ⟨failure, hfailure⟩ := hall e hmem
          rw [hend] at hfailure
          cases hfailure
      · exact hd.mono (by rw [status_complete_of_ne hij, status_collected]) hreturned
  | @failed j e failure hchores hmem hend =>
      have hsize := (h.sound.collected hmem).size
      by_cases hij : i = j
      · subst hij
        exact Or.inl (status_fail_self hs hsize failure (h.sound.lt_collected hmem))
      · refine hd.mono ?_ hreturned
        rw [status_fail_of_ne hs hsize failure hij, status_collected,
          if_neg fun hc => hd.not_pending hc.2]
  | @started j rest hchores =>
      have hpending := (h.sound.to_start j (hchores ▸ List.mem_cons_self)).2
      have hij : i ≠ j := by
        rintro rfl
        exact hd.not_pending hpending
      exact hd.mono (status_start_of_ne hij) hreturned
  | counted _ _ => exact hd.mono (status_counted _ _) hreturned
  | released _ _ _ hcancelled =>
      rw [h.cancelled] at hcancelled
      cases hcancelled

lemma after (hs : s.Planned) (events : List RunEvent) : ∀ r, Halted s r₀ r → Doomed s r i →
    Doomed s (after s r events) i := by
  induction events with
  | nil => exact fun _ _ hd => hd
  | cons event events ih =>
      intro r h hd
      have heffect := step_effect s r event
      exact ih _ (h.of_effect hs heffect) (hd.of_effect hs h heffect)

/-- **A doomed block has failed in the end**, at the latest when the run is closed. -/
theorem status_close (hs : s.Planned) (hsize : r.cells.length = s.size) (hd : Doomed s r i) :
    (close s r).status i = .failed := by
  have hi : i < s.size := by
    rw [← hsize]
    exact lt_of_status_ne hd.not_pending
  rw [status, cell_close hs hsize hi]
  rcases hd with hd | ⟨hd, _⟩
  · have hfailed : (r.cell i).state.status = .failed := hd
    rw [Cell.settled_of_isTerminal r.now (by rw [hfailed]; rfl), hfailed]
  · have hrunning : (r.cell i).state.status = .running := hd
    rw [Cell.settled, if_pos hrunning]

end Doomed

/-! ## Results -/

lemma conclude_of_cancelled (h : r.cancelled = true) :
    (conclude s r).status = .failed ∧ (conclude s r).errorKind = some .cancelled := by
  simp [conclude, result, overallError, overallStatus, h, Error.kind]

/-- A block that was never started is skipped in the end. -/
lemma status_close_of_not_started (hs : s.Planned) (h : Sound s r) (hi : i < s.size)
    (hstarted : i ∉ r.started) : (close s r).status i = .skipped := by
  have hbegun : ¬ (r.status i).isBegun := fun hb => hstarted ((h.started i).mpr hb)
  rw [status, cell_close hs h.size hi]
  cases hstatus : (r.cell i).state.status with
  | pending =>
      rw [Cell.settled, if_neg (by rw [hstatus]; decide), Cell.status_skipped, if_pos hstatus]
  | skipped => rw [Cell.settled_of_isTerminal r.now (by rw [hstatus]; rfl), hstatus]
  | running => exact absurd (by rw [status, hstatus]; rfl) hbegun
  | completed => exact absurd (by rw [status, hstatus]; rfl) hbegun
  | failed => exact absurd (by rw [status, hstatus]; rfl) hbegun

/-- The status that the result shows for a block. -/
def finalStatus (s : RunSetup) (r : Run) (i : Nat) : Option BlockStatus :=
  ((conclude s r).blockStates.get? (s.block i).id).map BlockState.status

lemma finalStatus_eq (hs : s.Planned) (hsize : r.cells.length = s.size) (hi : i < s.size) :
    finalStatus s r i = some ((close s r).status i) := by
  rw [finalStatus, get?_blockStates hs hsize hi]
  rfl

/-- **What a cancellation comes to**, at whatever moment of a run it happens and whatever happens
afterwards:

* the run as a whole has failed, and was cancelled;
* every block that had not returned has failed, and so has every block that returns afterwards,
  whatever its executor and its check came to;
* no block begins to run afterwards but those that were to be started at the beginning;
* every block that was never started is skipped;
* every block that had completed keeps its state. -/
theorem cancelled_at_any_moment (hs : s.Planned) (listener : Listener)
    (before later : List RunEvent) :
    let signal := after s (begin s listener false) before
    let halted := step s signal .cancels
    let last := after s halted later
    ((conclude s last).status = .failed ∧ (conclude s last).errorKind = some .cancelled) ∧
      (∀ i ∈ signal.running, finalStatus s last i = some .failed) ∧
      (∀ front i e back, later = front ++ .returns i e :: back →
        i ∈ (after s halted front).running → finalStatus s last i = some .failed) ∧
      (∀ front back, later = front ++ back → ∀ i,
        (after s halted front).status i = .running →
          signal.status i = .running ∨ i ∈ s.plan.entries ∧ i ∉ signal.started) ∧
      (∀ i < s.size, i ∉ last.started → finalStatus s last i = some .skipped) ∧
      ∀ i, signal.status i = .completed →
        (conclude s last).blockStates.get? (s.block i).id = some (signal.cell i).state := by
  intro signal halted last
  have hsignal : Sound s signal := sound_after hs listener false before
  have hhalted : Halted s signal halted := halted_cancels hsignal
  have hlast : Halted s signal last := hhalted.after hs later
  have hsize : last.cells.length = s.size := hlast.sound.size
  have hfailed : ∀ i, Doomed s last i → i < s.size → finalStatus s last i = some .failed := by
    intro i hd hi
    rw [finalStatus_eq hs hsize hi, hd.status_close hs hsize]
  refine ⟨conclude_of_cancelled hlast.cancelled, fun i hi => ?_, fun front i e back heq hi => ?_,
    fun front back heq i hi => ?_, fun i hi hstarted => ?_, fun i hi => ?_⟩
  · have hd : Doomed s halted i := doomed_of_running hhalted.sound hi
    exact hfailed i (Doomed.after hs later _ hhalted hd)
      (hsignal.lt_of_running (hsignal.mem_running hi))
  · have hfront : Halted s signal (after s halted front) := hhalted.after hs front
    have hd := doomed_of_running hfront.sound hi
    have hsplit : last = after s (after s halted front) (.returns i e :: back) := by
      rw [← after_append, ← heq]
    refine hfailed i ?_ (hfront.sound.lt_of_running (hfront.sound.mem_running hi))
    rw [hsplit]
    exact Doomed.after hs _ _ hfront hd
  · refine ((hhalted.after hs front).running i hi).imp_right fun hstart => ?_
    obtain ⟨hentry, hpending⟩ := hsignal.to_start i hstart
    refine ⟨hentry, fun hstarted => ?_⟩
    have hbegun := (hsignal.started i).mp hstarted
    rw [hpending] at hbegun
    cases hbegun
  · rw [finalStatus_eq hs hsize hi, status_close_of_not_started hs hlast.sound hi hstarted]
  · have hterminal : (signal.status i).isTerminal := by rw [hi]; rfl
    have hlt : i < s.size := by
      rw [← hsignal.size]
      exact lt_of_status_ne (by rw [hi]; nofun)
    have hpath : Path s halted last := path_after hs later halted hhalted.sound
    obtain ⟨n, hn⟩ := Path.final (hpath.trans (path_close hs hsize)) hterminal
    rw [get?_blockStates hs hsize hlt, hn]
    rfl

/-- A run that is cancelled while the first of two blocks is at work, which then succeeds. -/
theorem cancelled_at_any_moment_pipeline :
    RunSetup.pipeline.Planned ∧
      finalStatus RunSetup.pipeline
        (after RunSetup.pipeline (step RunSetup.pipeline (after RunSetup.pipeline
          (begin RunSetup.pipeline {} false) [.proceeds]) .cancels)
          [.returns 0 { result := .ok { outputs := [] } }, .joins 0]) 0 = some .failed := by
  have h := cancelled_at_any_moment RunSetup.planned_pipeline {} [.proceeds]
    [.returns 0 { result := .ok { outputs := [] } }, .joins 0]
  exact ⟨RunSetup.planned_pipeline, h.2.1 0 (by decide)⟩

end Run

end Blockflow
