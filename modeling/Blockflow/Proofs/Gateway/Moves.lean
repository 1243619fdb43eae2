import Blockflow.Gateway.Session
import Blockflow.Proofs.Gateway.Preparation

/-!
# What the events of a session do

An event of a session reads something from the client or takes a step of the work on a run; the
others change neither a run nor the frames for the client.  Reading lets a run start, lets it stop,
or leads to a complaint, and the work on a run takes one of a few steps, each with the frames it
lets wait.

* `Reading`, `Session.reading` — what an event amounts to as far as the client is heard.
* `RunTask.Move` — a step of the work on a run.
* **`Session.Effect`** — all that an event can do (`step_effect`), with `after_invariant` for what
  every event keeps.
-/

namespace Blockflow

/-! ## Reading -/

/-- What an event amounts to as far as the client is heard. -/
inductive Reading where
  /-- Nothing is read, or nothing that matters. -/
  | nothing
  /-- A run is accepted. -/
  | accepted (request : RunRequest)
  /-- What the client sent is turned away. -/
  | refused (complaint : ServerFrame)
  /-- The run that is being worked on is told to stop. -/
  | stop

/-- Whether an event is work on the run. -/
def SessionEvent.isWork : SessionEvent → Bool
  | .prepares _ | .runs | .forwards | .reports _ | .finishes => true
  | _ => false

/-- What is read at an event. -/
def Session.reading (c : Session) : SessionEvent → Reading
  | .receives text =>
    if c.isOpen then
      match ClientFrame.codec.ofText text with
      | .error wording => .refused (malformed wording)
      | .ok (.executeWorkflow r) => if c.isBusy then .refused busy else .accepted (c.requestOf r)
      | .ok .cancelExecution => if c.isBusy then .stop else .nothing
    else .nothing
  | .closes => if c.isOpen && c.isBusy then .stop else .nothing
  | _ => .nothing

/-! ## The work on a run -/

/-- **A step of the work on a run**, with the frames it lets wait. -/
inductive RunTask.Move (g : Gateway) : RunTask → RunTask → List ServerFrame → Prop
  | rejects {r : RunRequest} {s : GatewayState} {o : Outages} {now : Timestamp} {id : String}
    {e : Error} (h : (g.prepare s o now id r).2 = .error e) (cancelled : Bool) :
    Move g ⟨.accepted r, cancelled⟩ ⟨.reported, cancelled⟩ [.ofError e]
  | starts {r : RunRequest} {s : GatewayState} {o : Outages} {now : Timestamp} {id : String}
    {run : PreparedRun} {cancelled : Bool} {world : World} {frame : ScheduleFrame}
    {schedule : Schedule} (h : (g.prepare s o now id r).2 = .ok run)
    (hlaunch : g.launch run cancelled world = .ok (frame, schedule)) (since : Nat) :
    Move g ⟨.accepted r, cancelled⟩ ⟨.running run since frame schedule 0, cancelled⟩
      [.executionStarted run.executionId]
  | advances {run : PreparedRun} {since : Nat} {frame : ScheduleFrame} {schedule next : Schedule}
    {told : Nat} (h : schedule.step? frame = some next) (cancelled : Bool) :
    Move g ⟨.running run since frame schedule told, cancelled⟩
      ⟨.running run since frame next told, cancelled⟩ []
  | ends {run : PreparedRun} {since : Nat} {frame : ScheduleFrame} {schedule : Schedule}
    {told : Nat} (h : schedule.step? frame = none) (ms : Nat) (cancelled : Bool) :
    Move g ⟨.running run since frame schedule told, cancelled⟩
      ⟨.concluded run ms (schedule.conclude frame).2
        (schedule.conclude frame).1.run.listener.heard told, cancelled⟩ []
  | tells {run : PreparedRun} {since : Nat} {frame : ScheduleFrame} {schedule : Schedule}
    {told : Nat} {update : ExecutionUpdate} (h : schedule.run.listener.heard[told]? = some update)
    (cancelled : Bool) :
    Move g ⟨.running run since frame schedule told, cancelled⟩
      ⟨.running run since frame schedule (told + 1), cancelled⟩
      [.ofUpdate run.executionId update]
  | tellsLate {run : PreparedRun} {ms : Nat} {result : ExecutionResult}
    {heard : List ExecutionUpdate} {told : Nat} {update : ExecutionUpdate}
    (h : heard[told]? = some update) (cancelled : Bool) :
    Move g ⟨.concluded run ms result heard told, cancelled⟩
      ⟨.concluded run ms result heard (told + 1), cancelled⟩ [.ofUpdate run.executionId update]
  | reports {run : PreparedRun} {ms : Nat} {result : ExecutionResult}
    {heard : List ExecutionUpdate} {told : Nat} (h : heard.length ≤ told) (s : GatewayState)
    (o : Outages) (now : Timestamp) (cancelled : Bool) :
    Move g ⟨.concluded run ms result heard told, cancelled⟩ ⟨.reported, cancelled⟩
      [.executionComplete (g.report s o now run result ms).2]
  | finishes (cancelled : Bool) : Move g ⟨.reported, cancelled⟩ ⟨.finished, cancelled⟩ []

namespace Session

variable {g : Gateway} {c : Session}

/-! ## Effects -/

/-- **All that an event can do** to the run of a session and to the frames for the client. -/
inductive Effect (g : Gateway) (c : Session) : Reading → Session → Prop
  | idle {c' : Session} (htask : c'.task = c.task) (hframes : c'.frames = c.frames) :
    Effect g c .nothing c'
  | accepts {r : RunRequest} {c' : Session} (hfree : c.isBusy = false)
    (hr : r.userId = c.identity.userId) (htask : c'.task = some ⟨.accepted r, false⟩)
    (hframes : c'.frames = c.frames) : Effect g c (.accepted r) c'
  | complains {message : String} {c' : Session} (htask : c'.task = c.task)
    (hframes : c'.frames = c.frames ++ [.complaint message]) :
    Effect g c (.refused (.complaint message)) c'
  | stops {t : RunTask} {c' : Session} (ht : c.task = some t) (htask : c'.task = some t.cancel)
    (hframes : c'.frames = c.frames) : Effect g c .stop c'
  | leaves {t : RunTask} {c' : Session} (ht : c.task = some t) (hdone : t.phase = .finished)
    (htask : c'.task = some t.cancel) (hframes : c'.frames = c.frames) : Effect g c .nothing c'
  | works {t t' : RunTask} {frames : List ServerFrame} {c' : Session} (ht : c.task = some t)
    (hmove : t.Move g t' frames) (htask : c'.task = some t')
    (hframes : c'.frames = c.frames ++ frames) : Effect g c .nothing c'

@[simp] lemma frames_send (c : Session) (frame : ServerFrame) :
    (c.send frame).frames = c.frames ++ [frame] := by
  rw [frames, frames, send, List.append_assoc]

lemma isBusy_eq_true_iff : c.isBusy = true ↔ ∃ t, c.task = some t ∧ t.isRunning = true :=
  Option.any_eq_true _ _

/-- Only what is being worked on is told to stop; what has ended takes no notice. -/
lemma cancelRun_effect (isOpen : Bool) :
    Effect g c (if c.isBusy then .stop else .nothing) { c.cancelRun with isOpen } := by
  cases ht : c.task with
  | none =>
      rw [if_neg (by simp [isBusy, ht])]
      exact .idle (by rw [cancelRun, ht]; rfl) rfl
  | some t =>
      have htask : c.cancelRun.task = some t.cancel := by rw [cancelRun, ht]; rfl
      by_cases hbusy : c.isBusy = true
      · rw [if_pos hbusy]
        exact .stops ht htask rfl
      · rw [if_neg hbusy]
        refine .leaves ht ?_ htask rfl
        obtain ⟨phase, cancelled⟩ := t
        cases phase with
        | finished => rfl
        | accepted | running | concluded | reported =>
            exact absurd (isBusy_eq_true_iff.mpr ⟨_, ht, rfl⟩) hbusy

/-- What the client sends has the effect that it is read to have. -/
lemma receive_effect (hopen : c.isOpen = true) (text : String) :
    Effect g c (c.reading (.receives text)) (c.receive text) := by
  rw [reading, receive, if_pos hopen]
  cases ClientFrame.codec.ofText text with
  | error wording => exact .complains rfl (frames_send c _)
  | ok frame =>
      cases frame with
      | executeWorkflow r =>
          dsimp only [obey]
          split_ifs with hbusy
          · exact .complains rfl (frames_send c _)
          · exact .accepts (by simpa using hbusy) rfl rfl rfl
      | cancelExecution =>
          have hcancel : Effect g c _ c.cancelRun := cancelRun_effect c.isOpen
          dsimp only [obey]
          split_ifs at hcancel ⊢
          · exact hcancel
          · exact .idle rfl rfl

/-- An accepted run is launched or rejected. -/
lemma prepare_effect {r : RunRequest} {cancelled : Bool}
    (ht : c.task = some ⟨.accepted r, cancelled⟩) (o : Outages) :
    Effect g c .nothing (c.prepare g o ⟨.accepted r, cancelled⟩ r) := by
  rw [prepare]
  dsimp only
  generalize hp : g.prepare c.state o c.world.freshId.1.now c.world.freshId.2 r = p
  have hanswer := congrArg Prod.snd hp
  obtain ⟨state, answer⟩ := p
  cases answer with
  | error e => exact .works ht (.rejects hanswer cancelled) rfl (frames_send _ _)
  | ok run =>
      obtain ⟨frame, schedule, hlaunch⟩ :=
        Gateway.launch_of_prepare hanswer cancelled c.world.freshId.1
      have hid : run.executionId = c.world.freshId.2 := (Gateway.userId_of_prepare hanswer).1
      dsimp only
      rw [hlaunch, ← hid]
      exact .works ht (.starts hanswer hlaunch _) rfl (frames_send _ _)

/-- The work on a run takes its steps. -/
lemma workOn_effect {t : RunTask} (ht : c.task = some t) (event : SessionEvent) :
    Effect g c .nothing (c.workOn g t event) := by
  have hidle : Effect g c .nothing c := .idle rfl rfl
  obtain ⟨phase, cancelled⟩ := t
  cases event with
  | receives | receivesOther | closes | delivers | shares => exact hidle
  | prepares o =>
      cases phase with
      | accepted r => exact prepare_effect ht o
      | running | concluded | reported | finished => exact hidle
  | runs =>
      cases phase with
      | running run since frame schedule told =>
          dsimp only [workOn, advance]
          cases hnext : schedule.step? frame with
          | none => exact .works ht (.ends hnext _ cancelled) rfl (List.append_nil _).symm
          | some next => exact .works ht (.advances hnext cancelled) rfl (List.append_nil _).symm
      | accepted | concluded | reported | finished => exact hidle
  | forwards =>
      cases phase with
      | running run since frame schedule told =>
          dsimp only [workOn, nextUpdate]
          cases hnext : schedule.run.listener.heard[told]? with
          | none => exact hidle
          | some update => exact .works ht (.tells hnext cancelled) rfl (frames_send _ _)
      | concluded run ms result heard told =>
          dsimp only [workOn, nextUpdate]
          cases hnext : heard[told]? with
          | none => exact hidle
          | some update => exact .works ht (.tellsLate hnext cancelled) rfl (frames_send _ _)
      | accepted | reported | finished => exact hidle
  | reports o =>
      cases phase with
      | concluded run ms result heard told =>
          dsimp only [workOn]
          split_ifs with hheard
          · exact .works ht (.reports hheard c.state o c.world.now cancelled) rfl
              (frames_send _ _)
          · exact hidle
      | accepted | running | reported | finished => exact hidle
  | finishes =>
      cases phase with
      | reported => exact .works ht (.finishes cancelled) rfl (List.append_nil _).symm
      | accepted | running | concluded | finished => exact hidle

/-- Without a run there is nothing to work on. -/
lemma step_of_none (hevent : event.isWork = true) (ht : c.task = none) : c.step g event = c := by
  cases event with
  | prepares | runs | forwards | reports | finishes => simp only [step, ht]
  | receives | receivesOther | closes | delivers | shares => cases hevent

lemma step_of_some (hevent : event.isWork = true) {t : RunTask} (ht : c.task = some t) :
    c.step g event = c.workOn g t event := by
  cases event with
  | prepares | runs | forwards | reports | finishes => simp only [step, ht]
  | receives | receivesOther | closes | delivers | shares => cases hevent

/-- **An event has one of the effects.** -/
theorem step_effect (c : Session) (event : SessionEvent) :
    Effect g c (c.reading event) (c.step g event) := by
  have hwork : event.isWork = true → Effect g c .nothing (c.step g event) := by
    intro hevent
    cases ht : c.task with
    | none =>
        rw [step_of_none hevent ht]
        exact .idle rfl rfl
    | some t =>
        rw [step_of_some hevent ht]
        exact workOn_effect ht event
  cases event with
  | receives text =>
      cases hopen : c.isOpen with
      | false =>
          rw [reading, step, hopen]
          exact .idle rfl rfl
      | true =>
          rw [step, if_pos hopen]
          exact receive_effect hopen text
  | receivesOther => exact .idle rfl rfl
  | closes =>
      rw [reading, step]
      cases hopen : c.isOpen with
      | false => exact .idle rfl rfl
      | true => exact cancelRun_effect false
  | delivers =>
      rw [step]
      split
      · exact .idle rfl rfl
      · next frame rest hwaiting =>
          refine .idle rfl ?_
          rw [frames, frames, hwaiting, List.append_assoc]
          rfl
  | shares s => exact .idle rfl rfl
  | prepares | runs | forwards | reports | finishes => exact hwork rfl

lemma identity_receive (c : Session) (text : String) :
    (c.receive text).identity = c.identity := by
  rw [receive]
  split
  · next frame _ => cases frame <;> dsimp only [obey] <;> split_ifs <;> rfl
  · rfl

lemma identity_workOn (c : Session) (t : RunTask) (event : SessionEvent) :
    (c.workOn g t event).identity = c.identity := by
  obtain ⟨phase, cancelled⟩ := t
  cases event <;> cases phase <;> dsimp only [workOn, prepare] <;> (repeat' split) <;> rfl

/-- A session stays with its caller. -/
lemma identity_step (c : Session) (event : SessionEvent) :
    (c.step g event).identity = c.identity := by
  cases event <;> dsimp only [step]
  case receives text =>
    split_ifs
    · exact identity_receive c text
    · rfl
  case prepares | runs | forwards | reports | finishes =>
    split
    · exact identity_workOn c _ _
    · rfl
  all_goals first | rfl | (split <;> rfl)

end Session

end Blockflow
