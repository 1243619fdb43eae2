import Blockflow.Proofs.Workshop

/-!
# The turns of blocks

A block in a workshop goes on from answer to answer, and which answers come is open.  The scheduler
gives a block its turn: it goes on until the world has no answer yet, or until it is done.  What it
does then is some events of the workshop, and what it asks is what the world records.

* `Workshop.Records` — the records of the world are what was asked.
* `Workshop.AtRest`, `Workshop.Turned` — what a block has on its desk when it waits or is done, and
  a turn that brought it there.
* **`turn_proceed`**, **`turn_resume`** — every turn of the scheduler is one.
-/

namespace Blockflow

/-! ## Records -/

namespace Call

/-- The request that a call puts to a model. -/
def request? : Call → Option (Voice × ModelRequest)
  | .ask voice request => some (voice, request)
  | _ => none

/-- The use of a tool that a call notes. -/
def use? : Call → Option ToolUse
  | .note use => some use
  | _ => none

/-- Whether the answer to a call may be long in coming. -/
def isSlow : Call → Bool
  | .wait _ | .ask _ _ => true
  | _ => false

lemma nonempty_answer (c : Call) : Nonempty c.Answer := by
  cases c with
  | wait => exact ⟨()⟩
  | ask => exact ⟨.error exhausted⟩
  | note => exact ⟨()⟩
  | exchange => exact ⟨.unreachable⟩
  | attempts => exact ⟨[]⟩
  | report => exact ⟨()⟩

/-- Any answer may be the answer to a call. -/
lemma exists_reply (c : Call) (answer : c.Answer) :
    ∃ reply : (c : Call) → c.Answer, reply c = answer := by
  classical
  exact ⟨Function.update (fun c => c.nonempty_answer.some) c answer, Function.update_self c _ _⟩

end Call

namespace World

@[simp] lemma requests_withScript (w : World) (voice : Voice) (script : List ScriptStep) :
    (w.withScript voice script).requests = w.requests := by
  cases voice <;> rfl

@[simp] lemma uses_withScript (w : World) (voice : Voice) (script : List ScriptStep) :
    (w.withScript voice script).uses = w.uses := by
  cases voice <;> rfl

/-- A call is recorded when it is made. -/
lemma records_poll_true (w : World) (c : Call) :
    (w.poll true c).1.requests = w.requests ++ c.request?.toList ∧
      (w.poll true c).1.uses = w.uses ++ c.use?.toList := by
  cases c with
  | ask voice request =>
      rw [poll]
      simp only [if_true]
      split <;> simp [record, Call.request?, Call.use?]
  | wait | note | exchange | attempts | report =>
      simp [poll, Call.request?, Call.use?, routed, noted]

/-- What is slow is not recorded again when it is looked at again. -/
lemma records_poll_false (w : World) {c : Call} (hc : c.isSlow = true) :
    (w.poll false c).1.requests = w.requests ∧ (w.poll false c).1.uses = w.uses := by
  cases c with
  | wait ms => exact ⟨rfl, rfl⟩
  | ask voice request =>
      rw [poll]
      simp only [Bool.false_eq_true, if_false]
      split <;> simp
  | note | exchange | attempts | report => cases hc

/-- Only what is slow is to be looked at again. -/
lemma isSlow_of_poll {w w' : World} {c : Call} {ms : Nat} (h : w.poll true c = (w', .inl ms)) :
    c.isSlow = true := by
  cases c with
  | wait | ask => rfl
  | note | exchange | attempts | report => cases h

end World

namespace Workshop

variable {f : ScheduleFrame} {start world : World} {w v : Workshop} {i : Nat}
  {p q : Activity BlockEnd} {x : World × (Parked ⊕ BlockEnd)}

/-- **The records of the world are what was asked**, but for a call that is only now made. -/
structure Records (start world : World) (w : Workshop) (c : Option Call := none) : Prop where
  requests : world.requests ++ (c.bind Call.request?).toList =
    start.requests ++ w.asked.filterMap fun x => x.2.request?
  uses : world.uses ++ (c.bind Call.use?).toList =
    start.uses ++ w.asked.filterMap fun x => x.2.use?

namespace Records

/-- What is put on a desk is asked, and still to be recorded. -/
lemma place (h : Records start world w) (i : Nat) (p : Activity BlockEnd) :
    Records start world (w.place i p) p.pending? := by
  have hsingle : ∀ {β : Type} (g : Call → Option β),
      (p.pending?.toList.map fun c => (i, c)).filterMap (fun x => g x.2) =
        (p.pending?.bind g).toList := by
    intro β g
    cases p.pending? with
    | none => rfl
    | some c => cases hg : g c <;> simp [hg]
  have hrequests : world.requests = _ := (List.append_nil _).symm.trans h.requests
  have huses : world.uses = _ := (List.append_nil _).symm.trans h.uses
  constructor
  · rw [Workshop.place, List.filterMap_append, hsingle, ← List.append_assoc, hrequests]
  · rw [Workshop.place, List.filterMap_append, hsingle, ← List.append_assoc, huses]

lemma made {c : Call} (h : Records start world w (some c)) :
    Records start (world.poll true c).1 w := by
  obtain ⟨hrequests, huses⟩ := world.records_poll_true c
  constructor
  · rw [hrequests]
    exact (List.append_nil _).trans h.requests
  · rw [huses]
    exact (List.append_nil _).trans h.uses

lemma looked {c : Call} (h : Records start world w) (hc : c.isSlow = true) :
    Records start (world.poll false c).1 w := by
  obtain ⟨hrequests, huses⟩ := world.records_poll_false hc
  exact ⟨by rw [hrequests]; exact h.requests, by rw [huses]; exact h.uses⟩

end Records

/-! ## The turn of a block -/

/-- What a block has on its desk when it came to wait, or to its end. -/
inductive AtRest (i : Nat) : Parked ⊕ BlockEnd → Activity BlockEnd → Prop
  | waits {c : Call} {since wake : Nat} {next : Nat → c.Answer → Activity BlockEnd}
      (hc : c.isSlow = true) :
      AtRest i (.inl ⟨i, c, since, wake, none, next⟩) (.ask c next)
  | waitsAtMost {c : Call} {since wake deadline ms : Nat} {late : Activity BlockEnd}
      {next : Nat → c.Answer → Activity BlockEnd} (hc : c.isSlow = true) :
      AtRest i (.inl ⟨i, c, since, wake, some (deadline, late), next⟩)
        (.askWithin c ms late next)
  | ended {e : BlockEnd} : AtRest i (.inr e) (.done e)

namespace AtRest

variable {parked : Parked}

lemma block (h : AtRest i (.inl parked) p) : parked.block = i := by
  cases h <;> rfl

lemma isSlow (h : AtRest i (.inl parked) p) : parked.call.isSlow = true := by
  cases h <;> assumption

lemma pending? (h : AtRest i (.inl parked) p) : p.pending? = some parked.call := by
  cases h <;> rfl

lemma hear (h : AtRest i (.inl parked) p) (ms : Nat) (reply : (c : Call) → c.Answer) :
    p.hear ms reply = parked.next ms (reply parked.call) := by
  cases h <;> rfl

lemma late? (h : AtRest i (.inl parked) p) {deadline : Nat} {late : Activity BlockEnd}
    (hlimit : parked.limit = some (deadline, late)) : p.late? = some late := by
  cases h with
  | waits => cases hlimit
  | waitsAtMost =>
      cases hlimit
      rfl

/-- It may be looked at again at any other time. -/
lemma wake (h : AtRest i (.inl parked) p) (time : Nat) :
    AtRest i (.inl { parked with wake := time }) p := by
  cases h with
  | waits hc => exact .waits hc
  | waitsAtMost hc => exact .waitsAtMost hc

end AtRest

/-- **A block has had its turn**: it came to rest, its calls were recorded, and nothing else
happened. -/
structure Turned (start : World) (i : Nat) (w w' : Workshop) (x : World × (Parked ⊕ BlockEnd)) :
    Prop where
  run : w'.run = w.run
  others : ∀ j ≠ i, w'.desks j = w.desks j
  desk : ∃ p, w'.desks i = some p ∧ AtRest i x.2 p
  records : Records start x.1 w'

lemma desks_place_self : (w.place i p).desks i = some p := Function.update_self _ _ _

lemma desks_place_of_ne {j : Nat} (hj : j ≠ i) : (w.place i p).desks j = w.desks j :=
  Function.update_of_ne hj _ _

lemma step_answers (hi : i ∈ w.run.running) (hdesk : w.desks i = some p) {c : Call}
    (hc : p.pending? = some c) (ms : Nat) (reply : (c : Call) → c.Answer) :
    w.step f (.answers i ms reply) =
      place { w with heard := w.heard ++ [(i, ⟨c, reply c⟩)] } i (p.hear ms reply) := by
  simp only [step, atDesk, hdesk, if_pos hi, answer, hc]

lemma step_tires (hi : i ∈ w.run.running) (hdesk : w.desks i = some p) (hlate : p.late? = some q) :
    w.step f (.tires i) = w.place i q := by
  simp only [step, atDesk, hdesk, if_pos hi, hlate, Option.map_some, Option.getD_some]

lemma step_returns (hi : i ∈ w.run.running) {e : BlockEnd} (hdesk : w.desks i = some (.done e)) :
    w.step f (.returns i) = w.giveBack f i e := by
  simp only [step, atDesk, hdesk, if_pos hi, Activity.value?, Option.map_some, Option.getD_some]

/-- A turn that starts by putting something on the desk. -/
lemma turn_of_step {event : WorkEvent} (hstep : w.step f event = v.place i q)
    (hrun : v.run = w.run) (hdesks : v.desks = w.desks) (hrecords : Records start world v)
    (hturn : ∀ w' : Workshop, w'.run = w.run → w'.desks i = some q →
      Records start world w' q.pending? → ∃ events, Turned start i w' (w'.after f events) x) :
    ∃ events, Turned start i w (w.after f events) x := by
  obtain ⟨events, h⟩ := hturn (v.place i q) hrun desks_place_self (hrecords.place i q)
  have hafter : w.after f (event :: events) = (v.place i q).after f events := by
    rw [← hstep]
    rfl
  refine ⟨event :: events, ?_⟩
  rw [hafter]
  refine ⟨h.run.trans hrun, fun j hj => ?_, h.desk, h.records⟩
  rw [h.others j hj, desks_place_of_ne hj, hdesks]

/-- A turn that starts with an answer. -/
lemma turn_of_answer (hi : i ∈ w.run.running) (hdesk : w.desks i = some p) {c : Call}
    (hc : p.pending? = some c) (ms : Nat) (a : c.Answer)
    (hhear : ∀ reply : (c : Call) → c.Answer, reply c = a → p.hear ms reply = q)
    (hrecords : Records start world w)
    (hturn : ∀ w' : Workshop, w'.run = w.run → w'.desks i = some q →
      Records start world w' q.pending? → ∃ events, Turned start i w' (w'.after f events) x) :
    ∃ events, Turned start i w (w.after f events) x := by
  obtain ⟨reply, hreply⟩ := c.exists_reply a
  have hstep := step_answers (f := f) hi hdesk hc ms reply
  rw [hhear reply hreply] at hstep
  have hheard : Records start world { w with heard := w.heard ++ [(i, ⟨c, reply c⟩)] } :=
    ⟨hrecords.requests, hrecords.uses⟩
  exact turn_of_step hstep rfl rfl hheard hturn

/-- **A block goes on until it rests**, and each of its steps is an event. -/
theorem turn_proceed (f : ScheduleFrame) (start : World) (i : Nat) (p : Activity BlockEnd) :
    ∀ (world : World) (w : Workshop), i ∈ w.run.running → w.desks i = some p →
      Records start world w p.pending? →
      ∃ events, Turned start i w (w.after f events) (p.proceed i world) := by
  induction p with
  | done e =>
      intro world w hi hdesk hrecords
      exact ⟨[], rfl, fun _ _ => rfl, ⟨_, hdesk, .ended⟩, hrecords⟩
  | ask c next ih =>
      intro world w hi hdesk hrecords
      have hmade := hrecords.made
      rw [Activity.proceed]
      rcases hpoll : world.poll true c with ⟨world', ms | a⟩
      · rw [hpoll] at hmade
        exact ⟨[], rfl, fun _ _ => rfl, ⟨_, hdesk, .waits (World.isSlow_of_poll hpoll)⟩, hmade⟩
      · -- the answer is there at once, and the block goes on with it
        rw [hpoll] at hmade
        exact turn_of_answer hi hdesk rfl 0 a (fun _ h => congrArg (next 0) h) hmade
          fun w' hrun => ih 0 a world' w' (hrun ▸ hi)
  | askWithin c ms late next _ ih =>
      intro world w hi hdesk hrecords
      have hmade := hrecords.made
      rw [Activity.proceed]
      rcases hpoll : world.poll true c with ⟨world', t | a⟩
      · rw [hpoll] at hmade
        exact ⟨[], rfl, fun _ _ => rfl, ⟨_, hdesk, .waitsAtMost (World.isSlow_of_poll hpoll)⟩,
          hmade⟩
      · rw [hpoll] at hmade
        exact turn_of_answer hi hdesk rfl 0 a (fun _ h => congrArg (next 0) h) hmade
          fun w' hrun => ih 0 a world' w' (hrun ▸ hi)

/-- A block begins. -/
lemma turn_begin (hi : i ∈ w.run.running) (hdesk : w.desks i = none)
    (hrecords : Records start world w) :
    ∃ events, Turned start i w (w.after f events) ((f.workIn w.run i).proceed i world) := by
  have hstep : w.step f (.begins i) = w.place i (f.workIn w.run i) := if_pos ⟨hi, hdesk⟩
  refine turn_of_step hstep rfl rfl hrecords ?_
  exact fun w' hrun => turn_proceed f start i _ world w' (hrun ▸ hi)

variable {parked : Parked}

/-- A block that is not answered yet waits on, or its patience has come to an end. -/
lemma turn_patience (h : AtRest parked.block (.inl parked) p) (hi : parked.block ∈ w.run.running)
    (hdesk : w.desks parked.block = some p) (hrecords : Records start world w)
    (isOver : Nat × Activity BlockEnd → Bool) (wake : Nat) :
    ∃ events, Turned start parked.block w (w.after f events)
      (match parked.limit.filter isOver with
        | some (_, late) => late.proceed parked.block world
        | none => (world, .inl { parked with wake })) := by
  cases hlate : parked.limit.filter isOver with
  | none => exact ⟨[], rfl, fun _ _ => rfl, ⟨p, hdesk, h.wake wake⟩, hrecords⟩
  | some limit =>
      obtain ⟨deadline, late⟩ := limit
      have hstep := step_tires (f := f) hi hdesk (h.late? (Option.filter_eq_some_iff.mp hlate).1)
      refine turn_of_step hstep rfl rfl hrecords ?_
      exact fun w' hrun => turn_proceed f start _ late world w' (hrun ▸ hi)

/-- **A waiting block is looked at again.** -/
theorem turn_resume (f : ScheduleFrame) (h : AtRest parked.block (.inl parked) p)
    (hi : parked.block ∈ w.run.running) (hdesk : w.desks parked.block = some p)
    (hrecords : Records start world w) :
    ∃ events, Turned start parked.block w (w.after f events) (parked.resume world) := by
  rw [Parked.resume]
  split_ifs with hwake
  · have hlooked := hrecords.looked h.isSlow
    rcases hpoll : world.poll false parked.call with ⟨world', ms | a⟩
    · rw [hpoll] at hlooked
      exact turn_patience h hi hdesk hlooked _ _
    · rw [hpoll] at hlooked
      have hhear : ∀ reply : (c : Call) → c.Answer, reply parked.call = a →
          p.hear (world'.clock - parked.since) reply =
            parked.next (world'.clock - parked.since) a := by
        intro reply hreply
        rw [h.hear, hreply]
      exact turn_of_answer hi hdesk h.pending? _ a hhear hlooked
        fun w' hrun => turn_proceed f start _ _ world' w' (hrun ▸ hi)
  · exact turn_patience h hi hdesk hrecords _ parked.wake

end Workshop

end Blockflow
