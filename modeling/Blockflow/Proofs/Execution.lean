import Blockflow.Proofs.Run.Ledger
import Blockflow.Proofs.Schedule
import Blockflow.Proofs.Turns

/-!
# Executions in a workshop

A workshop leaves open which block goes on next, how long it waits and what it is answered.  The
scheduler settles all of this with the world it runs in: blocks go on in the order in which they
wait, and are answered by the scripts of the models.  So every execution is one course of the
workshop of its run, and what the world records is what was asked there.

* `Workshop.Keeps`, `Schedule.Tracks` — a workshop that has come as far as a schedule in its world.
* `tracked_step?`, `tracked_runUntil` — all that the scheduler does keeps it so.
* **`Engine.execute_eq_course`** — an execution is a course of its workshop.
-/

namespace Blockflow

lemma RunEvent.isReturn_of_isQuiet {event : RunEvent} (h : event.isQuiet = true) :
    event.isReturn = false := by
  cases event with
  | returns => cases h
  | joins | proceeds | loses | cancels | ticks => rfl

namespace Workshop

variable {f : ScheduleFrame} {start world : World} {w : Workshop} {i : Nat}
  {x : World × (Parked ⊕ BlockEnd)}

lemma step_books {event : RunEvent} (hquiet : event.isQuiet = true) :
    w.step f (.books event) = w.book f event := by
  rw [step, RunEvent.isReturn_of_isQuiet hquiet, if_neg Bool.false_ne_true]

/-! ## Keeping up with the world -/

/-- **A workshop in the world**: which of its blocks are to begin, and which wait. -/
structure Keeps (f : ScheduleFrame) (start world : World) (todo : List Nat) (waits : List Parked)
    (w : Workshop) : Prop where
  sound : Run.Sound f.setup w.run
  once : w.run.started.Nodup
  records : Records start world w
  begun : ∀ i, w.desks i ≠ none → i ∈ w.run.started
  to_begin : ∀ i ∈ todo, i ∈ w.run.running ∧ w.desks i = none
  todo_nodup : todo.Nodup
  waiting : ∀ p ∈ waits, p.block ∈ w.run.running ∧
    ∃ a, w.desks p.block = some a ∧ AtRest p.block (.inl p) a
  waits_nodup : (waits.map Parked.block).Nodup

namespace Keeps

variable {todo todo' : List Nat} {waits waits' : List Parked} {w' : Workshop}

lemma of_subset (h : Keeps f start world todo waits w) (htodo : todo' ⊆ todo)
    (htodo_nodup : todo'.Nodup) (hwaits : waits' ⊆ waits)
    (hwaits_nodup : (waits'.map Parked.block).Nodup) : Keeps f start world todo' waits' w :=
  ⟨h.sound, h.once, h.records, h.begun, fun i hi => h.to_begin i (htodo hi), htodo_nodup,
    fun p hp => h.waiting p (hwaits hp), hwaits_nodup⟩

/-- A block that is neither to begin nor waits has its turn. -/
lemma turned (h : Keeps f start world todo waits w) (hi : i ∈ w.run.running) (htodo : i ∉ todo)
    (hwaits : i ∉ waits.map Parked.block) (hturn : Turned start i w w' x) :
    Keeps f start x.1 todo waits w' := by
  have hdesk : ∀ j, (j ∈ todo ∨ j ∈ waits.map Parked.block) → w'.desks j = w.desks j := by
    refine fun j hj => hturn.others j ?_
    rintro rfl
    exact hj.elim htodo hwaits
  refine ⟨hturn.run ▸ h.sound, hturn.run ▸ h.once, hturn.records, fun j hj => ?_, fun j hj => ?_,
    h.todo_nodup, fun p hp => ?_, h.waits_nodup⟩
  · rw [hturn.run]
    by_cases hji : j = i
    · exact hji ▸ h.sound.mem_started hi
    · exact h.begun j (hturn.others j hji ▸ hj)
  · rw [hturn.run, hdesk j (.inl hj)]
    exact h.to_begin j hj
  · rw [hturn.run, hdesk p.block (.inr (List.mem_map_of_mem hp))]
    exact h.waiting p hp

/-- After its turn it may wait. -/
lemma rests {parked : Parked} (h : Keeps f start x.1 todo waits w') (hi : i ∈ w'.run.running)
    (hwaits : i ∉ waits.map Parked.block) (hturn : Turned start i w w' x)
    (hx : x.2 = .inl parked) : Keeps f start x.1 todo (waits ++ [parked]) w' := by
  obtain ⟨a, hdesk, hrest⟩ := hturn.desk
  rw [hx] at hrest
  obtain rfl := hrest.block
  refine ⟨h.sound, h.once, h.records, h.begun, h.to_begin, h.todo_nodup, fun p hp => ?_, ?_⟩
  · rcases List.mem_append.mp hp with hp | hp
    · exact h.waiting p hp
    · obtain rfl := List.mem_singleton.mp hp
      exact ⟨hi, a, hdesk, hrest⟩
  · rw [List.map_append, List.map_singleton, List.nodup_append]
    refine ⟨h.waits_nodup, List.nodup_singleton _, fun j hj k hk => ?_⟩
    obtain rfl := List.mem_singleton.mp hk
    rintro rfl
    exact hwaits hj

/-- A block that is neither to begin nor waits returns. -/
lemma left (hplanned : f.setup.Planned) (h : Keeps f start world todo waits w) (htodo : i ∉ todo)
    (hwaits : i ∉ waits.map Parked.block) {now : Timestamp} {e : BlockEnd}
    (hrun : w'.run = w.run.after f.setup [.ticks now, .returns i e]) (hdesks : w'.desks = w.desks)
    (hasked : w'.asked = w.asked) : Keeps f start world todo waits w' := by
  have hticked : Run.Sound f.setup { w.run with now } := h.sound.of_effect hplanned .ticked
  have hstep : w'.run = Run.step f.setup { w.run with now } (.returns i e) := hrun
  have hrunning : ∀ j ∈ w.run.running, j ≠ i → j ∈ w'.run.running := by
    intro j hj hji
    rw [hstep]
    exact hticked.mem_running_returns hj hji
  have hstarted : w'.run.started = w.run.started := by
    rw [hstep]
    exact Run.started_returns
  refine ⟨hstep ▸ hticked.of_effect hplanned (Run.step_effect _ _ _), hstarted ▸ h.once,
    ⟨?_, ?_⟩, fun j hj => ?_, fun j hj => ?_, h.todo_nodup, fun p hp => ?_, h.waits_nodup⟩
  · rw [hasked]
    exact h.records.requests
  · rw [hasked]
    exact h.records.uses
  · rw [hstarted]
    exact h.begun j (hdesks ▸ hj)
  · obtain ⟨hj_running, hdesk⟩ := h.to_begin j hj
    exact ⟨hrunning j hj_running (fun hji => htodo (hji ▸ hj)), hdesks ▸ hdesk⟩
  · obtain ⟨hp_running, hdesk⟩ := h.waiting p hp
    exact ⟨hrunning _ hp_running (fun hpi => hwaits (hpi ▸ List.mem_map_of_mem hp)),
      hdesks ▸ hdesk⟩

/-- **What no block returns from lets blocks begin.** -/
lemma booked (hplanned : f.setup.Planned) {n : Nat}
    (h : Keeps f start world (w.run.started.drop n) waits w) {event : RunEvent}
    (hquiet : event.isQuiet = true) :
    Keeps f start world ((w.book f event).run.started.drop n) waits (w.book f event) := by
  have heffect := Run.step_effect f.setup w.run event
  obtain ⟨fresh, hstarted, hrunning, hfresh, hnodup⟩ := Run.grows_of_effect h.sound heffect hquiet
  have honce : (w.book f event).run.started.Nodup := by
    rw [book, hstarted, List.nodup_append]
    exact ⟨h.once, hnodup, fun i hi j hj hij => hfresh j hj (hij ▸ hi)⟩
  refine ⟨h.sound.of_effect hplanned heffect, honce, ⟨h.records.requests, h.records.uses⟩,
    fun i hi => ?_, fun i hi => ?_, honce.sublist (List.drop_sublist _ _), fun p hp => ?_,
    h.waits_nodup⟩
  · rw [book, hstarted]
    exact List.mem_append_left _ (h.begun i hi)
  · rw [book, hstarted, List.drop_append] at hi
    rw [book, hrunning]
    rcases List.mem_append.mp hi with hi | hi
    · exact ⟨List.mem_append_left _ (h.to_begin i hi).1, (h.to_begin i hi).2⟩
    · have hi := List.mem_of_mem_drop hi
      exact ⟨List.mem_append_right _ hi, by_contra fun hdesk => hfresh i hi (h.begun i hdesk)⟩
  · rw [book, hrunning]
    exact ⟨List.mem_append_left _ (h.waiting p hp).1, (h.waiting p hp).2⟩

lemma books (hplanned : f.setup.Planned) {n : Nat} (events : List RunEvent) : ∀ w : Workshop,
    Keeps f start world (w.run.started.drop n) waits w →
      (∀ event ∈ events, event.isQuiet = true) →
      (w.after f (events.map .books)).run = w.run.after f.setup events ∧
        Keeps f start world ((w.run.after f.setup events).started.drop n) waits
          (w.after f (events.map .books)) := by
  induction events with
  | nil => exact fun w h _ => ⟨rfl, h⟩
  | cons event events ih =>
      intro w h hquiet
      obtain ⟨hevent, hevents⟩ := List.forall_mem_cons.mp hquiet
      have hafter : w.after f ((event :: events).map .books) =
          (w.book f event).after f (events.map .books) := by
        rw [← step_books hevent]
        rfl
      rw [hafter]
      exact ih _ (h.booked hplanned hevent) hevents

end Keeps

/-- A workshop in some course from its opening. -/
def Course (f : ScheduleFrame) (r : Run) (w : Workshop) : Prop :=
  ∃ events, w = (opened r).after f events

lemma Course.after {r : Run} (h : Course f r w) (events : List WorkEvent) :
    Course f r (w.after f events) := by
  obtain ⟨front, rfl⟩ := h
  exact ⟨front ++ events, (after_append front events).symm⟩

lemma Course.step {r : Run} (h : Course f r w) (event : WorkEvent) : Course f r (w.step f event) :=
  h.after [event]

/-- Before any block begins, only the run changes. -/
lemma after_books_opened (events : List RunEvent) : ∀ r : Run,
    (∀ event ∈ events, event.isQuiet = true) →
      (opened r).after f (events.map .books) = opened (r.after f.setup events) := by
  induction events with
  | nil => exact fun _ _ => rfl
  | cons event events ih =>
      intro r hquiet
      obtain ⟨hevent, hevents⟩ := List.forall_mem_cons.mp hquiet
      rw [Run.after_cons, ← ih _ hevents, List.map_cons, after, List.foldl_cons, step_books hevent]
      rfl

end Workshop

/-! ## Schedules -/

namespace Schedule

open Workshop

variable {f : ScheduleFrame} {s₀ s s' : Schedule} {todo : List Nat} {waits due : List Parked}
  {w : Workshop} {i : Nat}

/-- The started blocks that are to begin. -/
def unbegun (s : Schedule) : List Nat := s.run.started.drop s.begun

/-- **A workshop that has come as far as a schedule**, in a course from where another began. -/
structure Tracks (f : ScheduleFrame) (s₀ s : Schedule) (todo : List Nat) (waits : List Parked)
    (w : Workshop) : Prop where
  course : Course f s₀.run w
  run : w.run = s.run
  keeps : w.Keeps f s₀.world s.world todo waits

/-- A schedule that some workshop has come as far as. -/
def Tracked (f : ScheduleFrame) (s₀ s : Schedule) (todo : List Nat) (waits : List Parked) : Prop :=
  ∃ w, Tracks f s₀ s todo waits w

/-- Only the run and the world count. -/
lemma Tracked.of_same (h : Tracked f s₀ s todo waits) (hrun : s'.run = s.run)
    (hworld : s'.world = s.world) : Tracked f s₀ s' todo waits := by
  obtain ⟨w, hcourse, hsame, hkeeps⟩ := h
  exact ⟨w, hcourse, hsame.trans hrun.symm, hworld ▸ hkeeps⟩

/-! ### Turns -/

lemma run_write (s : Schedule) (event : RunEvent) :
    (s.write f event).run = s.run.after f.setup [.ticks s.world.now, event] := rfl

/-- A block has its turn, and what it came to is written down. -/
lemma Tracks.settle (hplanned : f.setup.Planned) (h : Tracks f s₀ s todo waits w)
    (hi : i ∈ w.run.running) (htodo : i ∉ todo) (hwaits : i ∉ waits.map Parked.block)
    (hparked : waits = due ++ s.parked) {x : World × (Parked ⊕ BlockEnd)}
    (hturn : ∃ events, Turned s₀.world i w (w.after f events) x) :
    Tracked f s₀ (s.settle f i x) todo (due ++ (s.settle f i x).parked) := by
  obtain ⟨events, hturn⟩ := hturn
  have hcourse := h.course.after events
  have hturned := h.keeps.turned hi htodo hwaits hturn
  have hrun := hturn.run.trans h.run
  rw [← hturn.run] at hi
  generalize w.after f events = w' at *
  obtain ⟨world, parked | e⟩ := x
  · have hrests := hturned.rests hi hwaits hturn rfl
    rw [hparked, List.append_assoc] at hrests
    exact ⟨w', hcourse, hrun, hrests⟩
  · obtain ⟨a, hdesk, ⟨⟩⟩ := hturn.desk
    -- the clock is looked at, and the block returns
    have hstep : (w'.step f (.books (.ticks world.now))).step f (.returns i) =
        (w'.book f (.ticks world.now)).giveBack f i e :=
      step_returns (w := w'.book f (.ticks world.now)) hi hdesk
    refine ⟨_, hstep ▸ (hcourse.step _).step _, ?_, ?_⟩
    · rw [Schedule.settle, run_write, ← hrun]
      rfl
    · rw [hparked] at hturned
      exact hturned.left hplanned htodo (hparked ▸ hwaits) rfl rfl rfl

/-- A block of a cancelled run is told to stop. -/
lemma Tracks.stop (hplanned : f.setup.Planned) (h : Tracks f s₀ s todo waits w)
    (hcancelled : s.run.cancelled = true) (htodo : i ∉ todo)
    (hwaits : i ∉ waits.map Parked.block) :
    Tracked f s₀ (s.write f (.returns i .cancelled)) todo waits := by
  rw [← h.run] at hcancelled
  have hstep : (w.step f (.books (.ticks s.world.now))).step f (.stops i) =
      (w.book f (.ticks s.world.now)).book f (.returns i .cancelled) := if_pos hcancelled
  refine ⟨_, hstep ▸ (h.course.step _).step _, ?_, ?_⟩
  · rw [run_write, ← h.run]
    rfl
  · exact h.keeps.left hplanned htodo hwaits rfl rfl rfl

/-! ### Beginning -/

lemma tracked_beginBlock (hplanned : f.setup.Planned)
    (h : Tracked f s₀ s (i :: todo) s.parked) :
    Tracked f s₀ (s.beginBlock f i) todo (s.beginBlock f i).parked := by
  obtain ⟨w, hcourse, hrun, hkeeps⟩ := h
  obtain ⟨hi, hdesk⟩ := hkeeps.to_begin i List.mem_cons_self
  obtain ⟨hi_todo, htodo⟩ := List.nodup_cons.mp hkeeps.todo_nodup
  have hrest : Tracks f s₀ s todo s.parked w := ⟨hcourse, hrun, hkeeps.of_subset
    (List.subset_cons_self i todo) htodo (List.Subset.refl _) hkeeps.waits_nodup⟩
  -- what waits has something on its desk
  have hwaits : i ∉ s.parked.map Parked.block := by
    rintro hmem
    obtain ⟨p, hp, rfl⟩ := List.mem_map.mp hmem
    obtain ⟨-, a, ha, -⟩ := hkeeps.waiting p hp
    exact absurd (hdesk.symm.trans ha) nofun
  rw [beginBlock]
  split_ifs with hcancelled
  · exact hrest.stop hplanned hcancelled hi_todo hwaits
  · have hturn := turn_begin (f := f) hi hdesk hkeeps.records
    rw [hrun] at hturn
    exact hrest.settle hplanned hi hi_todo hwaits (List.nil_append _).symm hturn

lemma tracked_foldl_beginBlock (hplanned : f.setup.Planned) (todo : List Nat) : ∀ s : Schedule,
    Tracked f s₀ s todo s.parked →
      Tracked f s₀ (todo.foldl (beginBlock f) s) [] (todo.foldl (beginBlock f) s).parked := by
  induction todo with
  | nil => exact fun s h => h
  | cons i todo ih => exact fun s h => ih _ (tracked_beginBlock hplanned h)

lemma unbegun_write (s : Schedule) (i : Nat) (e : BlockEnd) :
    (s.write f (.returns i e)).unbegun = s.unbegun := by
  have hstarted : (s.write f (.returns i e)).run.started = s.run.started :=
    Run.started_returns (s := f.setup)
  rw [Schedule.unbegun, hstarted]
  rfl

lemma unbegun_settle (s : Schedule) (i : Nat) (x : World × (Parked ⊕ BlockEnd)) :
    (s.settle f i x).unbegun = s.unbegun := by
  obtain ⟨world, parked | e⟩ := x
  · rfl
  · exact unbegun_write _ i e

lemma unbegun_beginBlock (s : Schedule) (i : Nat) : (s.beginBlock f i).unbegun = s.unbegun := by
  rw [beginBlock]
  split_ifs
  · exact unbegun_write s i _
  · exact unbegun_settle s i _

lemma unbegun_foldl {α : Type} {act : Schedule → α → Schedule}
    (h : ∀ s a, (act s a).unbegun = s.unbegun) (l : List α) :
    ∀ s, (l.foldl act s).unbegun = s.unbegun := by
  induction l with
  | nil => exact fun _ => rfl
  | cons a l ih => exact fun s => (ih _).trans (h s a)

lemma tracked_beginAll (hplanned : f.setup.Planned) (h : Tracked f s₀ s s.unbegun s.parked) :
    Tracked f s₀ (s.beginAll f) (s.beginAll f).unbegun (s.beginAll f).parked := by
  have hnone : (s.beginAll f).unbegun = [] :=
    (unbegun_foldl unbegun_beginBlock s.unbegun _).trans (List.drop_length)
  rw [hnone]
  exact tracked_foldl_beginBlock hplanned s.unbegun { s with begun := s.run.started.length }
    (h.of_same rfl rfl)

/-! ### Going on -/

lemma tracked_resumeBlock (hplanned : f.setup.Planned) {p : Parked}
    (h : Tracked f s₀ s todo (p :: due ++ s.parked)) :
    Tracked f s₀ (s.resumeBlock f p) todo (due ++ (s.resumeBlock f p).parked) := by
  obtain ⟨w, hcourse, hrun, hkeeps⟩ := h
  obtain ⟨hi, a, hdesk, hrest⟩ := hkeeps.waiting p List.mem_cons_self
  obtain ⟨hwaits, hwaits_nodup⟩ := List.nodup_cons.mp hkeeps.waits_nodup
  -- what is to begin has nothing on its desk
  have htodo : p.block ∉ todo := fun hmem =>
    absurd ((hkeeps.to_begin _ hmem).2.symm.trans hdesk) nofun
  have hothers : Tracks f s₀ s todo (due ++ s.parked) w := ⟨hcourse, hrun, hkeeps.of_subset
    (List.Subset.refl todo) hkeeps.todo_nodup (List.subset_cons_self p (due ++ s.parked))
    hwaits_nodup⟩
  exact hothers.settle hplanned hi htodo hwaits rfl (turn_resume f hrest hi hdesk hkeeps.records)

lemma tracked_foldl_resumeBlock (hplanned : f.setup.Planned) (due : List Parked) :
    ∀ s : Schedule, Tracked f s₀ s todo (due ++ s.parked) →
      Tracked f s₀ (due.foldl (resumeBlock f) s) todo (due.foldl (resumeBlock f) s).parked := by
  induction due with
  | nil => exact fun s h => h
  | cons p due ih => exact fun s h => ih _ (tracked_resumeBlock hplanned h)

lemma tracked_resumeDue (hplanned : f.setup.Planned) (h : Tracked f s₀ s s.unbegun s.parked) :
    Tracked f s₀ (s.resumeDue f) (s.resumeDue f).unbegun (s.resumeDue f).parked := by
  have hperm := List.filter_append_perm (fun p : Parked => decide (p.due ≤ s.world.clock)) s.parked
  have htodo : (s.resumeDue f).unbegun = s.unbegun :=
    unbegun_foldl (fun s (p : Parked) => unbegun_settle s p.block _) _ _
  rw [htodo]
  refine tracked_foldl_resumeBlock hplanned _
    { s with parked := s.parked.filter fun p => !(p.due ≤ s.world.clock) } ?_
  obtain ⟨w, hcourse, hrun, hkeeps⟩ := h
  exact ⟨w, hcourse, hrun, hkeeps.of_subset (List.Subset.refl _) hkeeps.todo_nodup hperm.subset
    ((hperm.map _).nodup_iff.mpr hkeeps.waits_nodup)⟩

/-! ### Cancellation -/

lemma cancelled_write (s : Schedule) (i : Nat) (e : BlockEnd) :
    (s.write f (.returns i e)).run.cancelled = s.run.cancelled := by
  refine Run.cancelled_after _ s.run ?_
  simp

lemma tracked_foldl_stop (hplanned : f.setup.Planned) (l : List Nat) : ∀ s : Schedule,
    Tracked f s₀ s [] [] → s.run.cancelled = true →
      Tracked f s₀ (l.foldl (fun s i => s.write f (.returns i .cancelled)) s) [] [] := by
  induction l with
  | nil => exact fun s h _ => h
  | cons i l ih =>
      rintro s ⟨w, h⟩ hcancelled
      exact ih _ (h.stop hplanned hcancelled List.not_mem_nil List.not_mem_nil)
        ((cancelled_write s i _).trans hcancelled)

lemma tracked_cancelParked (hplanned : f.setup.Planned) (h : Tracked f s₀ s s.unbegun s.parked)
    (htodo : s.unbegun = []) (hcancelled : s.run.cancelled = true) :
    Tracked f s₀ (s.cancelParked f) (s.cancelParked f).unbegun (s.cancelParked f).parked := by
  have hnone : (s.cancelParked f).unbegun = [] :=
    (unbegun_foldl (fun s i => unbegun_write s i .cancelled) _ _).trans htodo
  have hparked : ∀ (l : List Nat) (s : Schedule),
      (l.foldl (fun s i => s.write f (.returns i .cancelled)) s).parked = s.parked := by
    intro l
    induction l with
    | nil => exact fun _ => rfl
    | cons i l ih => exact fun s => ih _
  have hempty : (s.cancelParked f).parked = [] := hparked _ _
  rw [hnone, hempty]
  refine tracked_foldl_stop hplanned _ { s with parked := [] } ?_ hcancelled
  obtain ⟨w, hcourse, hrun, hkeeps⟩ := h
  exact ⟨w, hcourse, hrun, hkeeps.of_subset (List.nil_subset _) List.nodup_nil
    (List.nil_subset _) List.nodup_nil⟩

/-! ### Bookkeeping -/

/-- **What no block returns from** changes the run only. -/
lemma tracked_of_quiet (hplanned : f.setup.Planned) (h : Tracked f s₀ s s.unbegun s.parked)
    {events : List RunEvent} (hquiet : ∀ event ∈ events, event.isQuiet = true)
    (hrun : s'.run = s.run.after f.setup events) (hrequests : s'.world.requests = s.world.requests)
    (huses : s'.world.uses = s.world.uses) (hparked : s'.parked = s.parked)
    (hbegun : s'.begun = s.begun) : Tracked f s₀ s' s'.unbegun s'.parked := by
  obtain ⟨w, hcourse, hsame, hkeeps⟩ := h
  rw [unbegun, ← hsame] at hkeeps
  obtain ⟨hafter, hkeeps⟩ := hkeeps.books hplanned events _ hquiet
  refine ⟨w.after f (events.map .books), hcourse.after _, ?_, ?_⟩
  · rw [hafter, hsame, hrun]
  · rw [unbegun, hrun, hparked, hbegun, ← hsame]
    exact { hkeeps with
      records := ⟨by rw [hrequests]; exact hkeeps.records.requests,
        by rw [huses]; exact hkeeps.records.uses⟩ }

lemma joinAll_eq (s : Schedule) : ∃ events, (∀ event ∈ events, event.isQuiet = true) ∧
    s.joinAll f = { s with run := s.run.after f.setup events } := by
  have hfold : ∀ (l : List (Nat × BlockEnd)) (s : Schedule), ∃ events,
      (∀ event ∈ events, event.isQuiet = true) ∧
        l.foldl (fun s x => s.join f x.1) s = { s with run := s.run.after f.setup events } := by
    intro l
    induction l with
    | nil => exact fun s => ⟨[], List.forall_mem_nil _, rfl⟩
    | cons x l ih =>
        intro s
        obtain ⟨events, hquiet, heq⟩ := ih (s.join f x.1)
        -- the end is written down, and the chores that it leaves are done
        let first : List RunEvent := [.ticks s.world.now, .joins x.1] ++
          (s.write f (.joins x.1)).run.chores.map fun _ => .proceeds
        have hjoin : s.join f x.1 = { s with run := s.run.after f.setup first } := by
          rw [Run.after_append]
          rfl
        refine ⟨first ++ events, ?_, ?_⟩
        · simp only [first, List.forall_mem_append, List.forall_mem_cons, List.forall_mem_map]
          exact ⟨⟨⟨rfl, rfl, List.forall_mem_nil _⟩, fun _ _ => rfl⟩, hquiet⟩
        · rw [List.foldl_cons, heq, hjoin, Run.after_append first]
  exact hfold _ s

lemma tracked_joinAll (hplanned : f.setup.Planned) (h : Tracked f s₀ s s.unbegun s.parked) :
    Tracked f s₀ (s.joinAll f) (s.joinAll f).unbegun (s.joinAll f).parked := by
  obtain ⟨events, hquiet, heq⟩ := joinAll_eq (f := f) s
  rw [heq]
  exact tracked_of_quiet hplanned h hquiet rfl rfl rfl rfl rfl

lemma tracked_advance (hplanned : f.setup.Planned) (h : Tracked f s₀ s s.unbegun s.parked)
    (time : Nat) : Tracked f s₀ (s.advance f time) (s.advance f time).unbegun
      (s.advance f time).parked := by
  rw [advance]
  split
  · split_ifs
    · refine tracked_of_quiet hplanned h ?_ (run_write _ _) rfl rfl rfl rfl
      exact List.forall_mem_cons.mpr ⟨rfl, List.forall_mem_singleton.mpr rfl⟩
    · exact tracked_of_quiet hplanned h (List.forall_mem_nil _) rfl rfl rfl rfl rfl
  · exact tracked_of_quiet hplanned h (List.forall_mem_nil _) rfl rfl rfl rfl rfl

/-! ### Steps -/

/-- **A step of the scheduler** is some events of the workshop. -/
theorem tracked_step? (hplanned : f.setup.Planned) (h : Tracked f s₀ s s.unbegun s.parked)
    (hstep : s.step? f = some s') : Tracked f s₀ s' s'.unbegun s'.parked := by
  rw [step?] at hstep
  split_ifs at hstep with hbegun hcancelled
  · cases hstep
    exact tracked_joinAll hplanned (tracked_beginAll hplanned h)
  · cases hstep
    have htodo : s.unbegun = [] := List.drop_eq_nil_of_le (Nat.le_of_not_lt hbegun)
    rw [Bool.and_eq_true] at hcancelled
    exact tracked_joinAll hplanned (tracked_cancelParked hplanned h htodo hcancelled.1)
  · split at hstep
    · cases hstep
    · next time _ =>
        have hadvanced := tracked_advance hplanned h time
        dsimp only at hstep
        split_ifs at hstep
        · cases hstep
          exact hadvanced
        · cases hstep
          exact tracked_joinAll hplanned (tracked_resumeDue hplanned hadvanced)

/-- So is all that it does. -/
theorem tracked_runUntil (hplanned : f.setup.Planned) (stop : Schedule → Bool) (fuel : Nat) :
    ∀ s : Schedule, Tracked f s₀ s s.unbegun s.parked →
      Tracked f s₀ (runUntil f stop fuel s) (runUntil f stop fuel s).unbegun
        (runUntil f stop fuel s).parked := by
  induction fuel with
  | zero => exact fun s h => h
  | succ fuel ih =>
      intro s h
      rw [runUntil]
      split_ifs
      · exact h
      · split
        · exact h
        · next hstep => exact ih _ (tracked_step? hplanned h hstep)

end Schedule

/-! ## Executions -/

namespace Workshop

variable (w : Workshop)

/-- The requests in the records. -/
lemma map_modelRequests :
    w.modelRequests.map Prod.snd = w.asked.filterMap fun x => x.2.request? := by
  rw [modelRequests, List.map_filterMap]
  refine List.filterMap_congr fun x _ => ?_
  obtain ⟨i, c⟩ := x
  cases c <;> rfl

/-- The uses in the records. -/
lemma map_toolUses :
    w.toolUses.map Prod.snd =
      (w.asked.filterMap fun x => x.2.use?).map fun u => (u.tool, u.input) := by
  rw [toolUses, List.map_filterMap, List.map_filterMap]
  refine List.filterMap_congr fun x _ => ?_
  obtain ⟨i, c⟩ := x
  cases c <;> rfl

end Workshop

namespace Engine

open Workshop

variable {e : Engine} {w : Workflow} {input : Json.Object} {options : ExecutionOptions}
  {listener : Listener} {cancelled : Bool} {cancelAt : Option Nat} {world : World}

/-- At a launch the blocks without incoming connections are started. -/
lemma Launched.run_eq_after {f : ScheduleFrame} {s : Schedule}
    (h : Launched e w listener cancelled world f s) :
    ∃ events : List RunEvent, (∀ event ∈ events, event.isQuiet = true) ∧
      s.run = (Run.begin f.setup listener cancelled).after f.setup events :=
  ⟨_, List.forall_mem_map.mpr fun _ _ => rfl, h.run⟩

/-- A run that was launched keeps up with its world. -/
lemma tracked_launch {f : ScheduleFrame} {s : Schedule}
    (h : e.launch w input options listener cancelled world = .ok (f, s)) :
    Schedule.Tracked f s s s.unbegun s.parked := by
  have hlaunched := launched_of_launch h
  obtain ⟨events, hquiet, hrun⟩ := hlaunched.run_eq_after
  let first := Run.begin f.setup listener cancelled
  have hfirst : (Workshop.opened first).Keeps f s.world s.world (first.started.drop 0) [] :=
    ⟨Run.sound_begin hlaunched.planned listener cancelled, List.nodup_nil, ⟨rfl, rfl⟩,
      fun i hi => absurd rfl hi, List.forall_mem_nil _, List.nodup_nil, List.forall_mem_nil _,
      List.nodup_nil⟩
  obtain ⟨-, hkeeps⟩ := Keeps.books (n := 0) hlaunched.planned events (Workshop.opened first)
    hfirst hquiet
  rw [after_books_opened _ _ hquiet] at hkeeps
  refine ⟨Workshop.opened s.run, ⟨[], rfl⟩, rfl, ?_⟩
  rw [Schedule.unbegun, hlaunched.parked, hlaunched.begun, hrun]
  exact hkeeps

/-- **An execution is a course of its workshop**: to its last updates and its result, and in what
models were asked and what tools were used for. -/
theorem execute_eq_course {last : Schedule} {result : ExecutionResult}
    (h : e.execute w input options listener cancelled cancelAt world = .ok (last, result)) :
    ∃ (f : ScheduleFrame) (s : Schedule) (events : List WorkEvent),
      e.launch w input options listener cancelled world = .ok (f, s) ∧
        let shop := (Workshop.opened s.run).after f events
        last.run = shop.run.close f.setup ∧ result = shop.run.conclude f.setup ∧
          last.world.requests = world.requests ++ shop.modelRequests.map Prod.snd ∧
          last.world.uses.map (fun u => (u.tool, u.input)) =
            world.uses.map (fun u => (u.tool, u.input)) ++ shop.toolUses.map Prod.snd := by
  obtain ⟨f, s, hlaunch, hlast⟩ := exists_launch_of_execute h
  have hlaunched := launched_of_launch hlaunch
  have htracked : Schedule.Tracked f s { s with cancelAt } s.unbegun s.parked :=
    (tracked_launch hlaunch).of_same rfl rfl
  obtain ⟨_, ⟨events, rfl⟩, hrun, hkeeps⟩ := Schedule.tracked_runUntil hlaunched.planned
    (fun _ => false) Schedule.stepLimit { s with cancelAt } htracked
  obtain ⟨rfl, rfl⟩ := hlast
  generalize Schedule.runUntil f (fun _ => false) Schedule.stepLimit { s with cancelAt } = final
    at hrun hkeeps
  -- the scheduler looks at the clock a last time
  have hafter : (Workshop.opened s.run).after f (events ++ [.books (.ticks final.world.now)]) =
      ((Workshop.opened s.run).after f events).book f (.ticks final.world.now) := by
    rw [after_append]
    rfl
  refine ⟨f, s, events ++ [.books (.ticks final.world.now)], hlaunch, ?_⟩
  rw [hafter]
  have hfinal : (((Workshop.opened s.run).after f events).book f (.ticks final.world.now)).run =
      final.run.after f.setup [.ticks final.world.now] := by
    rw [← hrun]
    rfl
  refine ⟨congrArg (Run.close f.setup) hfinal.symm, congrArg (Run.conclude f.setup) hfinal.symm,
    ?_, ?_⟩
  · rw [map_modelRequests, ← hlaunched.requests]
    exact (List.append_nil _).symm.trans hkeeps.records.requests
  · rw [map_toolUses, ← hlaunched.uses, ← List.map_append]
    exact congrArg _ ((List.append_nil _).symm.trans hkeeps.records.uses)

end Engine

end Blockflow
