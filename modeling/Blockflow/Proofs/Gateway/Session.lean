import Blockflow.Proofs.Gateway.Moves
import Blockflow.Proofs.Run.Updates
import Blockflow.Proofs.Schedule
import Mathlib.Data.List.ModifyLast

/-!
# What a client is told

Whatever a client sends and whenever the work on its runs goes on, what it is told is a book.  The
book begins with a greeting and has a chapter for every run that was accepted, in that order: none
but the last may be unfinished, and each tells the updates of its own run, in the order in which the
engine came to them, and then how the run ended.  Complaints about what the client sent stand
between the lines; a run that they are about never begins.

* `Story`, `Chapter` — what is told of a run, and of whose run.
* `Gateway.Course` — the engine at work on a run that may be told to stop.
* `Chapter.Holds` — a chapter that is true.
* `Session.Account` — what a session has told so far, kept by every event (`Account.step`).
* **`Session.frames_after`** — the frames of every session.
-/

namespace Blockflow

/-! ## What is read -/

/-- A request that was accepted, and whether its run was told to stop. -/
structure Acceptance where
  request : RunRequest
  stopped : Bool := false

namespace Reading

/-- The complaint that is made. -/
def complaint? : Reading → Option ServerFrame
  | .refused complaint => some complaint
  | _ => none

/-- The requests that were accepted so far.  Being told to stop concerns the last of them. -/
def enter (log : List Acceptance) : Reading → List Acceptance
  | .accepted request => log ++ [{ request }]
  | .stop => log.modifyLast fun a => { a with stopped := true }
  | _ => log

end Reading

/-- What is read at the events of a session. -/
def Session.readings (g : Gateway) (c : Session) : List SessionEvent → List Reading
  | [] => []
  | event :: events => c.reading event :: (c.step g event).readings g events

/-! ## What a run says -/

namespace Run

/-- What was heard stays heard. -/
lemma Speaks.heard_grows {f : Run → Run} (hf : Speaks f) (r : Run) :
    r.listener.heard <+: (f r).listener.heard := by
  obtain ⟨us, hus⟩ := hf r
  have hlistener : (f r).listener = us.foldl Listener.tell r.listener :=
    congrArg listener (hus r.listener)
  rw [hlistener]
  exact (Listener.foldl_tell_beginning us r.listener).1

end Run

namespace Schedule

variable {f : ScheduleFrame} {s s' : Schedule}

lemma Leads.heard_grows (h : Leads f s s') :
    s.run.listener.heard <+: s'.run.listener.heard := by
  obtain ⟨events, hevents⟩ := h
  rw [hevents]
  exact (Run.speaks_after f.setup events).heard_grows s.run

/-- The end of a run adds to what was heard. -/
lemma heard_grows_conclude (f : ScheduleFrame) (s : Schedule) :
    s.run.listener.heard <+: (s.conclude f).1.run.listener.heard :=
  ((Run.speaks_close f.setup).comp (Run.speaks_after f.setup [.ticks s.world.now])).heard_grows
    s.run

end Schedule

lemma take_eq_of_grows {α : Type} {l l' : List α} (h : l <+: l') {n : Nat} (hn : n ≤ l.length) :
    l'.take n = l.take n := by
  obtain ⟨t, rfl⟩ := h
  exact List.take_append_of_le_length hn

/-! ## The engine at work -/

namespace Gateway

/-- A run is prepared from a request, at some time and in some state of the gateway. -/
def Prepares (g : Gateway) (r : RunRequest) (run : PreparedRun) : Prop :=
  ∃ s o now id, (g.prepare s o now id r).2 = .ok run

/-- **The engine at work on a run**, step by step from its launch, until it may be told to stop. -/
inductive Course (g : Gateway) (run : PreparedRun) (stopped : Bool) :
    ScheduleFrame → Schedule → Prop
  | launched {cancelled : Bool} {world : World} {f : ScheduleFrame} {s : Schedule}
    (hcancelled : cancelled = true → stopped = true)
    (h : g.launch run cancelled world = .ok (f, s)) : Course g run stopped f s
  | steps {f : ScheduleFrame} {s s' : Schedule} (h : Course g run stopped f s)
    (hstep : s.step? f = some s') : Course g run stopped f s'
  | stops {f : ScheduleFrame} {s : Schedule} (h : Course g run stopped f s)
    (hstopped : stopped = true) : Course g run stopped f (s.write f .cancels)

/-- The engine has come to the end of a run, with these updates and this result. -/
def Ends (g : Gateway) (run : PreparedRun) (stopped : Bool) (updates : List ExecutionUpdate)
    (result : ExecutionResult) : Prop :=
  ∃ f s, g.Course run stopped f s ∧ s.step? f = none ∧
    updates = (s.conclude f).1.run.listener.heard ∧ result = (s.conclude f).2

/-- The engine has come to these updates of a run, and perhaps to more. -/
def Reaches (g : Gateway) (run : PreparedRun) (stopped : Bool) (updates : List ExecutionUpdate) :
    Prop :=
  (∃ f s, g.Course run stopped f s ∧ updates <+: s.run.listener.heard) ∨
    ∃ heard result, g.Ends run stopped heard result ∧ updates <+: heard

variable {g : Gateway} {run : PreparedRun} {stopped : Bool}

/-- What goes on without being told to stop may also be told to. -/
lemma Course.mayStop {f : ScheduleFrame} {s : Schedule} (h : g.Course run stopped f s) :
    g.Course run true f s := by
  induction h with
  | launched _ h => exact .launched (fun _ => rfl) h
  | steps _ hstep ih => exact ih.steps hstep
  | stops _ _ ih => exact ih.stops rfl

lemma Ends.mayStop {updates : List ExecutionUpdate} {result : ExecutionResult}
    (h : g.Ends run stopped updates result) : g.Ends run true updates result := by
  obtain ⟨f, s, hcourse, hend⟩ := h
  exact ⟨f, s, hcourse.mayStop, hend⟩

end Gateway

/-! ## Chapters -/

namespace ServerFrame

/-- Whether a frame tells of an error. -/
def isError : ServerFrame → Bool
  | .error _ _ => true
  | _ => false

/-- Whether a frame complains about what the client sent. -/
def isComplaint : ServerFrame → Bool
  | .error _ none => true
  | _ => false

end ServerFrame

/-- What is told of a run: nothing yet, that it was rejected, that it goes on with these updates,
or that it has come to an end. -/
inductive Story where
  | silent
  | rejected (e : Error)
  | told (id : String) (updates : List ExecutionUpdate)
  | closed (id : String) (updates : List ExecutionUpdate) (completion : CompletionFrame)

namespace Story

/-- A segment: the start of a run, its updates, and its completion. -/
def segment : Story → List ServerFrame
  | .silent | .rejected _ => []
  | .told id updates => .executionStarted id :: updates.map (.executionUpdate id)
  | .closed id updates completion =>
    .executionStarted id :: updates.map (.executionUpdate id) ++ [.executionComplete completion]

/-- The frames that tell of a run: its segment, or the one error for which it was rejected. -/
def frames : Story → List ServerFrame
  | .rejected e => [.ofError e]
  | story => story.segment

/-- Whether nothing more is to be told. -/
def isOver : Story → Bool
  | .rejected _ | .closed _ _ _ => true
  | .silent | .told _ _ => false

end Story

/-- A chapter: an accepted request and what is told of its run. -/
structure Chapter where
  acceptance : Acceptance
  story : Story

/-- **A chapter that is true.**  It tells that a run was rejected if it was; and otherwise of the
updates that the engine came to, a beginning of them or, at the end, all of them. -/
def Chapter.Holds (g : Gateway) (ch : Chapter) : Prop :=
  match ch.story with
  | .silent => True
  | .rejected e => ∃ s o now id, (g.prepare s o now id ch.acceptance.request).2 = .error e
  | .told id updates => ∃ run, g.Prepares ch.acceptance.request run ∧ run.executionId = id ∧
    g.Reaches run ch.acceptance.stopped updates
  | .closed id updates completion => ∃ run, g.Prepares ch.acceptance.request run ∧
    run.executionId = id ∧ ∃ result, g.Ends run ch.acceptance.stopped updates result ∧
      ∃ s o now ms, completion = (g.report s o now run result ms).2

namespace Chapter

variable {g : Gateway}

/-- A chapter about a run that is told to stop. -/
def stop (ch : Chapter) : Chapter :=
  { ch with acceptance := { ch.acceptance with stopped := true } }

lemma Holds.stop {ch : Chapter} (h : ch.Holds g) : ch.stop.Holds g := by
  obtain ⟨⟨request, stopped⟩, story⟩ := ch
  cases story with
  | silent => exact trivial
  | rejected e => exact h
  | told id updates =>
      obtain ⟨run, hrun, hid, hreaches⟩ := h
      refine ⟨run, hrun, hid, ?_⟩
      obtain ⟨f, s, hcourse, hgrows⟩ | ⟨heard, result, hends, hgrows⟩ := hreaches
      · exact .inl ⟨f, s, hcourse.mayStop, hgrows⟩
      · exact .inr ⟨heard, result, hends.mayStop, hgrows⟩
  | closed id updates completion =>
      obtain ⟨run, hrun, hid, result, hends, hcompletion⟩ := h
      exact ⟨run, hrun, hid, result, hends.mayStop, hcompletion⟩

end Chapter

/-! ## The chapter that is being written -/

/-- **A chapter that has come as far as the work on a run.** -/
inductive RunTask.Matches (g : Gateway) : RunTask → Chapter → Prop
  | accepted {r : RunRequest} {cancelled stopped : Bool}
    (hcancelled : cancelled = true → stopped = true) :
    Matches g ⟨.accepted r, cancelled⟩ ⟨⟨r, stopped⟩, .silent⟩
  | running {r : RunRequest} {run : PreparedRun} {since : Nat} {f : ScheduleFrame} {s : Schedule}
    {told : Nat} {cancelled stopped : Bool} (hrun : g.Prepares r run)
    (hcourse : g.Course run stopped f s) (htold : told ≤ s.run.listener.heard.length) :
    Matches g ⟨.running run since f s told, cancelled⟩
      ⟨⟨r, stopped⟩, .told run.executionId (s.run.listener.heard.take told)⟩
  | concluded {r : RunRequest} {run : PreparedRun} {ms : Nat} {result : ExecutionResult}
    {heard : List ExecutionUpdate} {told : Nat} {cancelled stopped : Bool}
    (hrun : g.Prepares r run) (hends : g.Ends run stopped heard result) :
    Matches g ⟨.concluded run ms result heard told, cancelled⟩
      ⟨⟨r, stopped⟩, .told run.executionId (heard.take told)⟩
  | reported {ch : Chapter} (cancelled : Bool) (hover : ch.story.isOver = true)
    (hholds : ch.Holds g) : Matches g ⟨.reported, cancelled⟩ ch
  | finished {ch : Chapter} (cancelled : Bool) (hover : ch.story.isOver = true)
    (hholds : ch.Holds g) : Matches g ⟨.finished, cancelled⟩ ch

namespace RunTask.Matches

variable {g : Gateway} {t t' : RunTask} {ch : Chapter}

/-- What has come as far as the work is true. -/
lemma holds (h : t.Matches g ch) : ch.Holds g := by
  cases h with
  | accepted => exact trivial
  | running hrun hcourse htold =>
      exact ⟨_, hrun, rfl, .inl ⟨_, _, hcourse, List.take_prefix _ _⟩⟩
  | concluded hrun hends => exact ⟨_, hrun, rfl, .inr ⟨_, _, hends, List.take_prefix _ _⟩⟩
  | reported _ _ hholds | finished _ _ hholds => exact hholds

/-- When nothing is worked on any more, the chapter is over. -/
lemma isOver (h : t.Matches g ch) (ht : t.isRunning = false) : ch.story.isOver = true := by
  cases h with
  | finished _ hover => exact hover
  | accepted | running | concluded | reported => cases ht

/-- A run is told to stop. -/
lemma cancel (h : t.Matches g ch) : t.cancel.Matches g ch.stop := by
  cases h with
  | accepted => exact .accepted fun _ => rfl
  | @running r run since f s told cancelled stopped hrun hcourse htold =>
      have hgrows : s.run.listener.heard <+: (s.write f .cancels).run.listener.heard :=
        (Schedule.leads_write s .cancels).heard_grows
      have hmatches : RunTask.Matches g ⟨.running run since f (s.write f .cancels) told, true⟩
          ⟨⟨r, true⟩, .told run.executionId ((s.write f .cancels).run.listener.heard.take told)⟩ :=
        .running hrun (hcourse.mayStop.stops rfl) (htold.trans hgrows.length_le)
      rw [take_eq_of_grows hgrows htold] at hmatches
      exact hmatches
  | concluded hrun hends => exact .concluded hrun hends.mayStop
  | reported _ hover hholds => exact .reported _ hover hholds.stop
  | finished _ hover hholds => exact .finished _ hover hholds.stop

/-- One more update is told. -/
lemma frames_told_succ (id : String) {heard : List ExecutionUpdate} {told : Nat}
    {update : ExecutionUpdate} (h : heard[told]? = some update) :
    (Story.told id (heard.take (told + 1))).frames =
      (Story.told id (heard.take told)).frames ++ [.ofUpdate id update] := by
  rw [List.take_add_one, h]
  simp [Story.frames, Story.segment, ServerFrame.ofUpdate]

/-- **A step of the work adds its frames to the chapter.** -/
lemma move (h : t.Matches g ch) {frames : List ServerFrame} (hmove : t.Move g t' frames) :
    ∃ story, t'.Matches g ⟨ch.acceptance, story⟩ ∧ story.frames = ch.story.frames ++ frames := by
  cases hmove with
  | rejects hrejected cancelled =>
      cases h
      exact ⟨.rejected _, .reported _ rfl ⟨_, _, _, _, hrejected⟩, rfl⟩
  | starts hprepared hlaunch since =>
      cases h with
      | accepted hcancelled =>
          exact ⟨_, .running ⟨_, _, _, _, hprepared⟩ (.launched hcancelled hlaunch)
            (Nat.zero_le _), rfl⟩
  | advances hstep cancelled =>
      cases h with
      | running hrun hcourse htold =>
          -- what has been told so far is where it was: the engine's updates only grow
          have hgrows := (Schedule.follows_step? hstep).leads.heard_grows
          refine ⟨_, .running hrun (hcourse.steps hstep) (htold.trans hgrows.length_le), ?_⟩
          rw [take_eq_of_grows hgrows htold, List.append_nil]
  | ends hend ms cancelled =>
      cases h with
      | running hrun hcourse htold =>
          refine ⟨_, .concluded hrun ⟨_, _, hcourse, hend, rfl, rfl⟩, ?_⟩
          rw [take_eq_of_grows (Schedule.heard_grows_conclude _ _) htold, List.append_nil]
  | tells hnext cancelled =>
      cases h with
      | running hrun hcourse htold =>
          obtain ⟨hlt, -⟩ := List.getElem?_eq_some_iff.mp hnext
          exact ⟨_, .running hrun hcourse hlt, frames_told_succ _ hnext⟩
  | tellsLate hnext cancelled =>
      cases h with
      | concluded hrun hends => exact ⟨_, .concluded hrun hends, frames_told_succ _ hnext⟩
  | reports hheard s o now cancelled =>
      cases h with
      | concluded hrun hends =>
          rw [List.take_of_length_le hheard]
          exact ⟨.closed _ _ _, .reported _ rfl
            ⟨_, hrun, rfl, _, hends, s, o, now, _, rfl⟩, rfl⟩
  | finishes cancelled =>
      cases h with
      | reported _ hover hholds =>
          exact ⟨_, .finished _ hover hholds, (List.append_nil _).symm⟩

end RunTask.Matches

/-- The work on a run complains about nothing. -/
lemma RunTask.Move.not_isComplaint {g : Gateway} {t t' : RunTask} {frames : List ServerFrame}
    (h : t.Move g t' frames) : ∀ frame ∈ frames, frame.isComplaint = false := by
  cases h <;> simp [ServerFrame.ofError, ServerFrame.ofUpdate, ServerFrame.isComplaint]

/-! ## The book -/

namespace Session

variable {g : Gateway} {c c' : Session}

/-- A book: chapters that are over, and the one that is being written. -/
structure Book where
  past : List Chapter := []
  current : Option Chapter := none

/-- All chapters of a book. -/
def Book.chapters (b : Book) : List Chapter := b.past ++ b.current.toList

@[simp] lemma Book.chapters_some (past : List Chapter) (ch : Chapter) :
    (Book.mk past (some ch)).chapters = past ++ [ch] := rfl

/-- **What a session has told**: chapters about the runs that were accepted, of which the last has
come as far as the work on its run, and complaints between their lines. -/
structure Account (g : Gateway) (c : Session) (log : List Acceptance)
    (complaints : List ServerFrame) (b : Book) : Prop where
  matched : Option.Rel (RunTask.Matches g) c.task b.current
  accepted : b.chapters.map Chapter.acceptance = log
  closed : ∀ ch ∈ b.past, ch.story.isOver = true ∧ ch.Holds g
  frames : ∃ rest, c.frames = .connected :: rest ∧
    (rest.filter fun frame => !frame.isComplaint) = b.chapters.flatMap (·.story.frames) ∧
    rest.filter ServerFrame.isComplaint = complaints

namespace Account

variable {log : List Acceptance} {complaints : List ServerFrame} {b : Book}

lemma idle (h : Account g c log complaints b) (htask : c'.task = c.task)
    (hframes : c'.frames = c.frames) : Account g c' log complaints b where
  matched := htask ▸ h.matched
  accepted := h.accepted
  closed := h.closed
  frames := hframes ▸ h.frames

lemma complains (h : Account g c log complaints b) (htask : c'.task = c.task) {message : String}
    (hframes : c'.frames = c.frames ++ [.complaint message]) :
    Account g c' log (complaints ++ [.complaint message]) b where
  matched := htask ▸ h.matched
  accepted := h.accepted
  closed := h.closed
  frames := by
    obtain ⟨rest, hrest, hchapters, hcomplaints⟩ := h.frames
    refine ⟨rest ++ [.complaint message], by rw [hframes, hrest, List.cons_append], ?_, ?_⟩
    · rw [List.filter_append, hchapters]
      exact List.append_nil _
    · rw [List.filter_append, hcomplaints]
      rfl

/-- A chapter is over, or it is the one that is being written. -/
lemma of_mem_chapters (h : Account g c log complaints b) {ch : Chapter} (hch : ch ∈ b.chapters) :
    ch.story.isOver = true ∧ ch.Holds g ∨ ∃ t ∈ c.task, t.Matches g ch := by
  obtain hpast | hcurrent := List.mem_append.mp hch
  · exact .inl (h.closed ch hpast)
  · have hmatched := h.matched
    generalize c.task = task, b.current = current at hmatched hcurrent
    cases hmatched with
    | none => cases hcurrent
    | some hmatches =>
        obtain rfl := List.mem_singleton.mp hcurrent
        exact .inr ⟨_, rfl, hmatches⟩

lemma holds (h : Account g c log complaints b) : ∀ ch ∈ b.chapters, ch.Holds g := by
  intro ch hch
  obtain ⟨-, hholds⟩ | ⟨t, -, hmatches⟩ := h.of_mem_chapters hch
  · exact hholds
  · exact hmatches.holds

/-- Once nothing is worked on, all chapters are over. -/
lemma over_of_free (h : Account g c log complaints b) (hfree : c.isBusy = false) :
    ∀ ch ∈ b.chapters, ch.story.isOver = true ∧ ch.Holds g := by
  intro ch hch
  obtain hover | ⟨t, ht, hmatches⟩ := h.of_mem_chapters hch
  · exact hover
  · have hdone : t.isRunning = false := by
      rw [isBusy, show c.task = some t from ht] at hfree
      exact hfree
    exact ⟨hmatches.isOver hdone, hmatches.holds⟩

lemma accepts (h : Account g c log complaints b) (hfree : c.isBusy = false) {r : RunRequest}
    (htask : c'.task = some ⟨.accepted r, false⟩) (hframes : c'.frames = c.frames) :
    Account g c' (log ++ [{ request := r }]) complaints
      ⟨b.chapters, some ⟨{ request := r }, .silent⟩⟩ where
  matched := htask ▸ .some (.accepted nofun)
  accepted := by
    rw [Book.chapters_some, List.map_append, h.accepted]
    rfl
  closed := h.over_of_free hfree
  frames := by
    obtain ⟨rest, hrest, hchapters, hcomplaints⟩ := h.frames
    refine ⟨rest, hframes.trans hrest, ?_, hcomplaints⟩
    rw [hchapters, Book.chapters_some, List.flatMap_append]
    exact (List.append_nil _).symm

/-- What is worked on has a chapter. -/
lemma exists_current (h : Account g c log complaints b) {t : RunTask} (ht : c.task = some t) :
    ∃ past ch, b = ⟨past, some ch⟩ ∧ t.Matches g ch := by
  obtain ⟨past, current⟩ := b
  have hmatched := h.matched
  rw [ht] at hmatched
  cases hmatched with
  | some hmatches => exact ⟨past, _, rfl, hmatches⟩

/-- The chapter that is being written goes on with some frames. -/
lemma goOn {past : List Chapter} {ch : Chapter} (h : Account g c log complaints ⟨past, some ch⟩)
    {t : RunTask} {story : Story} (hmatches : t.Matches g ⟨ch.acceptance, story⟩)
    (htask : c'.task = some t) {frames : List ServerFrame}
    (hstory : story.frames = ch.story.frames ++ frames)
    (hsound : ∀ frame ∈ frames, frame.isComplaint = false)
    (hframes : c'.frames = c.frames ++ frames) :
    Account g c' log complaints ⟨past, some ⟨ch.acceptance, story⟩⟩ where
  matched := htask ▸ .some hmatches
  accepted := by
    rw [← h.accepted, Book.chapters_some, Book.chapters_some, List.map_append, List.map_append]
    rfl
  closed := h.closed
  frames := by
    obtain ⟨rest, hrest, hchapters, hcomplaints⟩ := h.frames
    refine ⟨rest ++ frames, by rw [hframes, hrest, List.cons_append], ?_, ?_⟩
    · have hall : (frames.filter fun frame => !frame.isComplaint) = frames :=
        List.filter_eq_self.mpr fun frame hframe => by rw [hsound frame hframe]; rfl
      rw [List.filter_append, hchapters, hall, Book.chapters_some, Book.chapters_some]
      simp [hstory]
    · have hnone : frames.filter ServerFrame.isComplaint = [] :=
        List.filter_eq_nil_iff.mpr fun frame hframe => by simp [hsound frame hframe]
      rw [List.filter_append, hcomplaints, hnone, List.append_nil]

lemma stops {past : List Chapter} {ch : Chapter} (h : Account g c log complaints ⟨past, some ch⟩)
    {t : RunTask} (hmatches : t.Matches g ch) (htask : c'.task = some t.cancel)
    (hframes : c'.frames = c.frames) :
    Account g c' (log.modifyLast fun a => { a with stopped := true }) complaints
      ⟨past, some ch.stop⟩ where
  matched := htask ▸ .some hmatches.cancel
  accepted := by
    rw [← h.accepted, Book.chapters_some, Book.chapters_some, List.map_append, List.map_append]
    rw [List.map_singleton, List.map_singleton, List.modifyLast_concat]
    rfl
  closed := h.closed
  frames := by
    obtain ⟨rest, hrest, hchapters, hcomplaints⟩ := h.frames
    refine ⟨rest, hframes.trans hrest, ?_, hcomplaints⟩
    rw [hchapters, Book.chapters_some, Book.chapters_some]
    simp [Chapter.stop]

/-- **An event keeps the account.** -/
lemma step (h : Account g c log complaints b) (event : SessionEvent) :
    ∃ b', Account g (c.step g event) ((c.reading event).enter log)
      (complaints ++ (c.reading event).complaint?.toList) b' := by
  have heffect := step_effect (g := g) c event
  generalize c.reading event = reading, c.step g event = c' at heffect
  -- most events lead to no complaint
  have hquiet {log' : List Acceptance} (h : ∃ b', Account g c' log' complaints b') :
      ∃ b', Account g c' log' (complaints ++ (none : Option ServerFrame).toList) b' := by
    rw [Option.toList_none, List.append_nil]
    exact h
  cases heffect with
  | idle htask hframes => exact hquiet ⟨b, h.idle htask hframes⟩
  | complains htask hframes => exact ⟨b, h.complains htask hframes⟩
  | accepts hfree hr htask hframes => exact hquiet ⟨_, h.accepts hfree htask hframes⟩
  | stops ht htask hframes =>
      obtain ⟨past, ch, rfl, hmatches⟩ := h.exists_current ht
      exact hquiet ⟨_, h.stops hmatches htask hframes⟩
  | @leaves t _ ht hdone htask hframes =>
      obtain ⟨past, ch, rfl, hmatches⟩ := h.exists_current ht
      obtain ⟨phase, cancelled⟩ := t
      obtain rfl : phase = .finished := hdone
      cases hmatches with
      | finished _ hover hholds =>
          have hnext : RunTask.Matches g ⟨.finished, true⟩ ⟨ch.acceptance, ch.story⟩ :=
            .finished true hover hholds
          have hnone : ∀ frame ∈ ([] : List ServerFrame), frame.isComplaint = false :=
            fun _ hframe => absurd hframe List.not_mem_nil
          exact hquiet ⟨_, h.goOn hnext htask (List.append_nil _).symm hnone
            (hframes.trans (List.append_nil _).symm)⟩
  | works ht hmove htask hframes =>
      obtain ⟨past, ch, rfl, hmatches⟩ := h.exists_current ht
      obtain ⟨story, hnext, hstory⟩ := hmatches.move hmove
      exact hquiet ⟨_, h.goOn hnext htask hstory hmove.not_isComplaint hframes⟩

end Account

lemma account_opened (identity : Identity) (state : GatewayState) (world : World) :
    Account g (opened identity state world) [] [] {} where
  matched := .none
  accepted := rfl
  closed _ h := absurd h List.not_mem_nil
  frames := ⟨[], rfl, rfl, rfl⟩

/-- **Any number of events keep the account.** -/
theorem Account.after (events : List SessionEvent) : ∀ {c : Session} {log : List Acceptance}
    {complaints : List ServerFrame} {b : Book}, Account g c log complaints b →
    ∃ b', Account g (c.after g events) ((c.readings g events).foldl Reading.enter log)
      (complaints ++ (c.readings g events).filterMap Reading.complaint?) b' := by
  induction events with
  | nil =>
      intro c log complaints b h
      rw [readings, List.filterMap_nil, List.append_nil]
      exact ⟨b, h⟩
  | cons event events ih =>
      intro c log complaints b h
      obtain ⟨b', hb'⟩ := h.step event
      obtain ⟨b'', hb''⟩ := ih hb'
      have hcomplaints : ((c.reading event) :: (c.step g event).readings g events).filterMap
          Reading.complaint? = (c.reading event).complaint?.toList ++
            ((c.step g event).readings g events).filterMap Reading.complaint? := by
        rw [List.filterMap_cons]
        cases (c.reading event).complaint? <;> rfl
      refine ⟨b'', ?_⟩
      rw [readings, List.foldl_cons, hcomplaints, ← List.append_assoc]
      exact hb''

end Session

end Blockflow
