import Blockflow.Proofs.Gateway.Session

/-!
# When the next run is accepted

A session works on one run at a time, and the last frame of a run waits to be sent before the work
on the run has ended.  Frames are delivered whenever the writer comes to it, so a client can know of
the end of its run before the session does, and a run that it asks for then is refused.  All that is
missing is the end of the work: it has nothing more to do and nothing more to say, and behind it the
next run is accepted.

* `ServerFrame.endsRun` — the last frames of runs.
* `Session.Account.countP_endsRun` — how many of them a session has told.
* **`Session.next_accepted`** — when as many runs have ended as were accepted, and what follows.
* **`Session.refused_behind_last_frame`** — a run that is refused although the one before it was
  told to the end.
-/

namespace Blockflow

/-! ## Last frames -/

/-- Whether a frame is the last one of a run. -/
def ServerFrame.endsRun : ServerFrame → Bool
  | .executionComplete _ | .error _ (some _) => true
  | .connected | .executionStarted _ | .executionUpdate _ _ | .error _ none => false

/-- Complaints end no run. -/
lemma ServerFrame.countP_endsRun_filter (frames : List ServerFrame) :
    (frames.filter fun frame => !frame.isComplaint).countP endsRun = frames.countP endsRun := by
  rw [List.countP_filter]
  refine List.countP_congr fun frame _ => ?_
  rcases frame with _ | _ | _ | _ | ⟨message, _ | kind⟩ <;> rfl

/-- A story is over with its last frame. -/
lemma Story.countP_endsRun (story : Story) :
    story.frames.countP ServerFrame.endsRun = if story.isOver then 1 else 0 := by
  have htold : ∀ id updates, (Story.told id updates).segment.countP ServerFrame.endsRun = 0 := by
    intro id updates
    rw [segment, List.countP_cons_of_neg Bool.false_ne_true, List.countP_map, List.countP_eq_zero]
    exact fun _ _ => Bool.false_ne_true
  cases story with
  | silent | rejected => rfl
  | told id updates => exact htold id updates
  | closed id updates completion =>
      change ((Story.told id updates).segment ++ [ServerFrame.executionComplete completion]).countP
        _ = 1
      rw [List.countP_append, htold]
      rfl

/-- A chapter is over exactly if the last frame of its run waits, or the work on it has ended. -/
lemma RunTask.Matches.isOver_iff {g : Gateway} {t : RunTask} {ch : Chapter} (h : t.Matches g ch) :
    ch.story.isOver = true ↔ t.phase = .reported ∨ t.phase = .finished := by
  cases h with
  | accepted | running | concluded => simp [Story.isOver]
  | reported _ hover | finished _ hover => simp [hover]

namespace Session

variable {g : Gateway} {c : Session}

/-- The chapters that are over are counted by their last frames. -/
lemma countP_endsRun_flatMap (chapters : List Chapter) :
    (chapters.flatMap (·.story.frames)).countP ServerFrame.endsRun =
      chapters.countP (·.story.isOver) := by
  induction chapters with
  | nil => rfl
  | cons ch chapters ih =>
      rw [List.flatMap_cons, List.countP_append, ih, Story.countP_endsRun, List.countP_cons,
        Nat.add_comm]

/-- Behind the end of the work nothing is worked on, if there is nothing left but to end. -/
lemma isBusy_finishes_iff :
    (c.step g .finishes).isBusy = false ↔
      ∀ t, c.task = some t → t.phase = .reported ∨ t.phase = .finished := by
  cases ht : c.task with
  | none =>
      rw [step_of_none rfl ht, isBusy, ht]
      simp
  | some t =>
      obtain ⟨phase, cancelled⟩ := t
      rw [step_of_some rfl ht]
      cases phase <;> simp [workOn, isBusy, ht, RunTask.isRunning]

lemma isOpen_finishes : (c.step g .finishes).isOpen = c.isOpen := by
  cases ht : c.task with
  | none => rw [step_of_none rfl ht]
  | some t =>
      obtain ⟨phase, cancelled⟩ := t
      rw [step_of_some rfl ht]
      cases phase <;> rfl

/-- **The runs that have ended**, as far as the client is told, are all that were accepted, or all
but the one that is being worked on. -/
lemma Account.countP_endsRun {log : List Acceptance} {complaints : List ServerFrame} {b : Book}
    (h : Account g c log complaints b) :
    c.frames.countP ServerFrame.endsRun + (if (c.step g .finishes).isBusy then 1 else 0) =
      log.length := by
  obtain ⟨rest, hrest, hchapters, -⟩ := h.frames
  have hcount : c.frames.countP ServerFrame.endsRun = b.chapters.countP (·.story.isOver) := by
    rw [hrest, List.countP_cons_of_neg Bool.false_ne_true, ← ServerFrame.countP_endsRun_filter,
      hchapters, countP_endsRun_flatMap]
  rw [hcount, ← h.accepted, List.length_map]
  obtain ⟨past, current⟩ := b
  have hpast : past.countP (·.story.isOver) = past.length :=
    List.countP_eq_length.mpr fun ch hch => (h.closed ch hch).1
  have hmatched := h.matched
  generalize ht : c.task = task at hmatched
  cases hmatched with
  | none =>
      have hfree : (c.step g .finishes).isBusy = false := by
        rw [isBusy_finishes_iff, ht]
        intro t h
        cases h
      rw [hfree, Book.chapters, Option.toList_none, List.append_nil, hpast]
      rfl
  | @some t ch hmatches =>
      have hfree : (c.step g .finishes).isBusy = false ↔ ch.story.isOver = true := by
        rw [isBusy_finishes_iff, hmatches.isOver_iff, ht]
        simp
      rw [Book.chapters_some, List.countP_append, hpast, List.length_append, List.countP_singleton,
        List.length_singleton]
      cases hover : ch.story.isOver with
      | true =>
          rw [hfree.mpr hover]
          rfl
      | false =>
          have hbusy : (c.step g .finishes).isBusy = true :=
            Bool.of_not_eq_false fun h => Bool.noConfusion (hover.symm.trans (hfree.mp h))
          rw [hbusy]
          rfl

/-- **When the next run is accepted.**  At any time, a client was told of the ends of all runs that
were accepted or of all but the last.  It was told of all of them, or will be by frames that wait,
exactly if the work on the last run has ended or has nothing left to do but to end; and when it has
ended, a run that the client asks for is accepted. -/
theorem next_accepted (g : Gateway) (identity : Identity) (state : GatewayState) (world : World)
    (events : List SessionEvent) :
    let first := opened identity state world
    let c := first.after g events
    let accepted := ((first.readings g events).foldl Reading.enter []).length
    let ended := c.frames.countP ServerFrame.endsRun
    (ended = accepted ∨ ended + 1 = accepted) ∧
      (ended = accepted ↔ (c.step g .finishes).isBusy = false) ∧
      ∀ text r, ClientFrame.codec.ofText text = .ok (.executeWorkflow r) → c.isOpen = true →
        ended = accepted → (c.step g .finishes).reading (.receives text) =
          .accepted (c.requestOf r) := by
  intro first c accepted ended
  obtain ⟨b, hb⟩ := (account_opened (g := g) identity state world).after events
  have hcount := hb.countP_endsRun
  change ended + (if (c.step g .finishes).isBusy then 1 else 0) = accepted at hcount
  have hends : ended = accepted ↔ (c.step g .finishes).isBusy = false := by
    rw [← hcount, ← Bool.not_eq_true]
    split_ifs with hbusy
    · exact iff_of_false (Nat.ne_of_lt (Nat.lt_succ_self ended)) fun h => h hbusy
    · exact iff_of_true rfl hbusy
  refine ⟨?_, hends, fun text r htext hopen hended => ?_⟩
  · split_ifs at hcount
    · exact .inr hcount
    · exact .inl hcount
  · rw [reading, if_pos (isOpen_finishes.trans hopen), htext]
    dsimp only
    rw [if_neg (by simp [hends.mp hended]), requestOf, identity_step]
    rfl

/-- A run that is asked for while nothing is worked on is accepted. -/
lemma step_receives_of_free {text : String} {r : RunFrame} (hopen : c.isOpen = true)
    (hfree : c.isBusy = false)
    (htext : ClientFrame.codec.ofText text = .ok (.executeWorkflow r)) :
    c.step g (.receives text) =
      { c with task := some { phase := .accepted (c.requestOf r) } } := by
  rw [step, if_pos hopen, receive, htext]
  exact if_neg (by simp [hfree])

/-- A run that is rejected has its last frame. -/
lemma step_prepares_of_error {r : RunRequest} {cancelled : Bool} {o : Outages}
    {left : GatewayState} {e : Error} (ht : c.task = some ⟨.accepted r, cancelled⟩)
    (h : g.prepare c.state o c.world.freshId.1.now c.world.freshId.2 r = (left, .error e)) :
    c.step g (.prepares o) =
      { c with
        state := left
        world := c.world.freshId.1
        task := some ⟨.reported, cancelled⟩
        waiting := c.waiting ++ [.ofError e] } := by
  rw [step_of_some rfl ht]
  dsimp only [workOn]
  rw [prepare]
  dsimp only
  rw [h]
  rfl

/-- **A run that is refused although the one before it was told to the end.**  Whenever a run is
rejected, its error can reach the client before the work on the run ends; a run that the client then
asks for is refused, and behind the end of the work it would have been accepted. -/
theorem refused_behind_last_frame {identity : Identity} {state : GatewayState} {world : World}
    {text : String} {r : RunFrame} {o : Outages} {e : Error}
    (htext : ClientFrame.codec.ofText text = .ok (.executeWorkflow r)) :
    let first := opened identity state world
    (g.prepare state o world.freshId.1.now world.freshId.2 (first.requestOf r)).2 = .error e →
    let c := first.after g [.receives text, .prepares o, .delivers, .delivers]
    c.delivered = [.connected, .ofError e] ∧ c.waiting = [] ∧
      c.reading (.receives text) = .refused busy ∧
      (c.step g .finishes).reading (.receives text) = .accepted (first.requestOf r) := by
  intro first hrejected c
  obtain ⟨left, hprepare⟩ : ∃ left,
      g.prepare state o world.freshId.1.now world.freshId.2 (first.requestOf r) =
        (left, .error e) := ⟨_, Prod.ext rfl hrejected⟩
  have hopen : first.isOpen = true := rfl
  have hfree : first.isBusy = false := rfl
  have hasked := step_receives_of_free (g := g) hopen hfree htext
  have hreported := (congrArg (fun c => c.step g (.prepares o)) hasked).trans
    (step_prepares_of_error rfl hprepare)
  have hc : c = (((first.step g (.receives text)).step g (.prepares o)).step g .delivers).step g
    .delivers := rfl
  rw [hreported] at hc
  refine ⟨by rw [hc]; rfl, by rw [hc]; rfl, ?_, ?_⟩
  · rw [hc, reading, htext]
    rfl
  · rw [hc, reading, htext]
    rfl

end Session

end Blockflow
