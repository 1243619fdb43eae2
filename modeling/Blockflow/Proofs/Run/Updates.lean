import Blockflow.Proofs.Run.Results

/-!
# What is heard of a run

Updates are sent from five places, and several of them can reach the same block.  Still every
block is heard of as if it went its way alone: the updates about it are the history of its state.

* `BlockState.history` — the updates that lead to a state.
* **`Run.Told`** — what has been heard is the histories of all blocks, interleaved so that a block
  starts after the blocks before it have completed.  Every move keeps it.
* `Run.relisten`, **`Run.Speaks`** — what a run does does not depend on who listens: an operation
  sends the same updates to every listener.
* `foldl_tell_beginning` — whoever leaves has heard the beginning.
* **`heard_to_the_end`** — all of it together, for every run.
-/

namespace Blockflow

/-- **The updates that lead to a state.** -/
def BlockState.history (id : String) (b : BlockState) : List ExecutionUpdate :=
  let begun := { blockId := id, status := .running, inputs := some b.inputs }
  match b.status with
  | .pending => []
  | .running => [begun]
  | .completed => [begun, { blockId := id, status := .completed, output := some b.outputs }]
  | .failed =>
    [begun, { blockId := id, status := .failed, error := b.error, errorKind := b.errorKind }]
  | .skipped => [{ blockId := id, status := .skipped }]

namespace Listener

variable {l : Listener}

/-- A listener that stays. -/
def Stays (l : Listener) : Prop := l.gone = false ∧ l.leavesAfter = none

lemma Stays.tell (h : l.Stays) (u : ExecutionUpdate) :
    l.tell u = { l with heard := l.heard ++ [u] } := by
  simp [Listener.tell, h.1, h.2]

lemma foldl_tell_of_stays (us : List ExecutionUpdate) : ∀ l : Listener, l.Stays →
    (us.foldl tell l).heard = l.heard ++ us := by
  induction us with
  | nil => simp
  | cons u us ih =>
      intro l h
      have htail := ih { l with heard := l.heard ++ [u] } h
      rw [List.foldl_cons, h.tell u, htail]
      simp

/-- **Whoever leaves has heard the beginning.** -/
theorem foldl_tell_beginning (us : List ExecutionUpdate) : ∀ l : Listener,
    l.heard <+: (us.foldl tell l).heard ∧ (us.foldl tell l).heard <+: l.heard ++ us := by
  have hgone : ∀ us : List ExecutionUpdate, ∀ l : Listener, l.gone = true →
      us.foldl tell l = l := by
    intro us
    induction us with
    | nil => exact fun _ _ => rfl
    | cons u us ih =>
        intro l h
        rw [List.foldl_cons, Listener.tell, if_pos h, ih l h]
  induction us with
  | nil => exact fun l => ⟨List.prefix_rfl, by simp⟩
  | cons u us ih =>
      intro l
      rw [List.foldl_cons, Listener.tell]
      split_ifs with h hleaves
      · rw [hgone us l h]
        exact ⟨List.prefix_rfl, List.prefix_append _ _⟩
      · rw [hgone us _ rfl]
        exact ⟨List.prefix_rfl, List.prefix_append _ _⟩
      · obtain ⟨hfront, hback⟩ := ih { l with heard := l.heard ++ [u] }
        refine ⟨(List.prefix_append _ _).trans hfront, ?_⟩
        simpa using hback

end Listener

namespace Run

variable {s : RunSetup} {r r' : Run} {i j : Nat}

/-! ## Whoever listens -/

/-- A run with another listener. -/
def relisten (r : Run) (l : Listener) : Run := { r with listener := l }

/-- **An operation that does not care who listens**: it tells every listener the same. -/
def Speaks (f : Run → Run) : Prop :=
  ∀ r, ∃ us : List ExecutionUpdate, ∀ l,
    f (r.relisten l) = (f r).relisten (us.foldl Listener.tell l)

lemma Speaks.comp {f g : Run → Run} (hg : Speaks g) (hf : Speaks f) :
    Speaks fun r => g (f r) := by
  intro r
  obtain ⟨us, hus⟩ := hf r
  obtain ⟨vs, hvs⟩ := hg (f r)
  refine ⟨us ++ vs, fun l => ?_⟩
  simp only [hus, hvs, List.foldl_append]

lemma Speaks.foldl {α : Type} {f : Run → α → Run} (h : ∀ a, Speaks fun r => f r a) (l : List α) :
    Speaks fun r => l.foldl f r := by
  induction l with
  | nil => exact fun r => ⟨[], fun _ => rfl⟩
  | cons a l ih => exact ih.comp (h a)

/-- A choice that does not look at the listener. -/
lemma Speaks.ite {c : Run → Prop} [DecidablePred c] {f g : Run → Run}
    (hc : ∀ r l, c (r.relisten l) ↔ c r) (hf : Speaks f) (hg : Speaks g) :
    Speaks fun r => if c r then f r else g r := by
  intro r
  by_cases h : c r
  · obtain ⟨us, hus⟩ := hf r
    refine ⟨us, fun l => ?_⟩
    simp only [if_pos h, if_pos ((hc r l).mpr h), hus]
  · obtain ⟨us, hus⟩ := hg r
    refine ⟨us, fun l => ?_⟩
    simp only [if_neg h, if_neg fun hl => h ((hc r l).mp hl), hus]

/-- An operation that tells nothing. -/
lemma speaks_of_silent {f : Run → Run} (h : ∀ r l, f (r.relisten l) = (f r).relisten l) :
    Speaks f := fun r => ⟨[], h r⟩

lemma speaks_self : Speaks fun r => r := speaks_of_silent fun _ _ => rfl

lemma speaks_start (s : RunSetup) (i : Nat) : Speaks fun r => start s r i := fun r =>
  ⟨[{ blockId := (s.block i).id, status := .running, inputs := some (blockInputs s r i) }],
    fun _ => rfl⟩

lemma speaks_skip (s : RunSetup) (i : Nat) : Speaks fun r => skip s r i := fun _ =>
  ⟨[{ blockId := (s.block i).id, status := .skipped }], fun _ => rfl⟩

lemma speaks_skipPending (s : RunSetup) (i : Nat) : Speaks fun r => skipPending s r i :=
  .ite (fun _ _ => Iff.rfl) (speaks_skip s i) speaks_self

lemma speaks_recordFailure (s : RunSetup) (i : Nat) (e : Error) :
    Speaks fun r => recordFailure s r i e := fun _ =>
  ⟨[{ blockId := (s.block i).id
      status := .failed
      error := some e.message
      errorKind := some e.kind }],
    fun _ => rfl⟩

lemma speaks_fail (s : RunSetup) (i : Nat) (e : Error) : Speaks fun r => fail s r i e :=
  (Speaks.foldl (speaks_skipPending s) (s.plan.descendants i)).comp (speaks_recordFailure s i e)

lemma speaks_complete (s : RunSetup) (i : Nat) (outputs : Json.Object) :
    Speaks fun r => complete s r i outputs := fun _ =>
  ⟨[{ blockId := (s.block i).id, status := .completed, output := some outputs }], fun _ => rfl⟩

lemma speaks_finish (s : RunSetup) (i : Nat) (e : BlockEnd) : Speaks fun r => finish s r i e := by
  have hnoted : Speaks fun r => noted s r i e := fun _ => ⟨[], fun _ => rfl⟩
  simp only [finish_eq]
  cases e.failure? s.authoritative with
  | none => exact (speaks_complete s i e.delivered).comp hnoted
  | some failure => exact (speaks_fail s i failure).comp hnoted

lemma speaks_release (s : RunSetup) (i : Nat) : Speaks fun r => release s r i := by
  have hcounted : Speaks fun r => r.counted i r.chores := speaks_of_silent fun _ _ => rfl
  have hstarted : Speaks fun r => start s (r.counted i r.chores) i :=
    (speaks_start s i).comp hcounted
  exact .ite (fun _ _ => Iff.rfl) hstarted hcounted

lemma speaks_perform (s : RunSetup) (chore : Chore) : Speaks fun r => perform s r chore := by
  cases chore with
  | start i => exact speaks_start s i
  | release i => exact speaks_release s i

lemma speaks_joins (s : RunSetup) (i : Nat) : Speaks fun r => step s r (.joins i) := by
  refine .ite (fun _ _ => Iff.rfl) (fun r => ?_) speaks_self
  cases hfind : r.returned.find? fun x => x.1 = i with
  | none =>
      refine ⟨[], fun l => ?_⟩
      have hfind' : (r.relisten l).returned.find? (fun x => x.1 = i) = none := hfind
      simp only [hfind']
      rfl
  | some x =>
      obtain ⟨us, hus⟩ := speaks_finish s i x.2
        { r with returned := r.returned.filter fun x => x.1 ≠ i }
      refine ⟨us, fun l => ?_⟩
      have hfind' : (r.relisten l).returned.find? (fun x => x.1 = i) = some x := hfind
      simp only [hfind']
      exact hus l

lemma speaks_proceeds (s : RunSetup) : Speaks fun r => step s r .proceeds := by
  intro r
  cases hchores : r.chores with
  | nil =>
      refine ⟨[], fun l => ?_⟩
      have hchores' : (r.relisten l).chores = [] := hchores
      simp only [step, hchores, hchores']
      rfl
  | cons chore rest =>
      obtain ⟨us, hus⟩ := speaks_perform s chore { r with chores := rest }
      refine ⟨us, fun l => ?_⟩
      have hchores' : (r.relisten l).chores = chore :: rest := hchores
      simp only [step, hchores, hchores']
      exact hus l

/-- **What happens in a run does not depend on who listens.** -/
theorem speaks_step (s : RunSetup) (event : RunEvent) : Speaks fun r => step s r event := by
  cases event with
  | returns i e =>
      exact .ite (fun _ _ => Iff.rfl) (speaks_of_silent fun _ _ => rfl) speaks_self
  | joins i => exact speaks_joins s i
  | proceeds => exact speaks_proceeds s
  | loses i => exact speaks_of_silent fun _ _ => rfl
  | cancels => exact speaks_of_silent fun _ _ => rfl
  | ticks now => exact speaks_of_silent fun _ _ => rfl

lemma speaks_after (s : RunSetup) (events : List RunEvent) : Speaks fun r => after s r events :=
  Speaks.foldl (speaks_step s) events

lemma speaks_settle (s : RunSetup) (i : Nat) : Speaks fun r => settle s r i := by
  simp only [settle_eq]
  exact .ite (fun _ _ => Iff.rfl) (speaks_fail s i cutOff) (speaks_skipPending s i)

lemma speaks_close (s : RunSetup) : Speaks fun r => close s r :=
  Speaks.foldl (speaks_settle s) s.plan.order

/-! ## What is heard -/

/-- **What has been heard agrees with the cells.** -/
structure Told (s : RunSetup) (r : Run) : Prop where
  size : r.cells.length = s.size
  stays : r.listener.Stays
  histories : ∀ i < s.size,
    (r.listener.heard.filter fun u => u.blockId = (s.block i).id) =
      (r.cell i).state.history (s.block i).id
  named : ∀ u ∈ r.listener.heard, ∃ i < s.size, u.blockId = (s.block i).id
  ordered : ∀ front u back, r.listener.heard = front ++ u :: back → u.status = .running →
    ∀ c ∈ s.workflow.connections, c.target = u.blockId →
      ∃ v ∈ front, v.blockId = c.source ∧ v.status = .completed

lemma told_begin (hs : s.Planned) (cancelled : Bool) : Told s (begin s {} cancelled) := by
  refine ⟨(sound_begin hs {} cancelled).size, ⟨rfl, rfl⟩, ?_, by simp [begin, initial], ?_⟩
  · intro i _
    have hpending : ((begin s {} cancelled).cell i).state.status = .pending :=
      status_begin s {} cancelled i
    simp only [BlockState.history, hpending]
    rfl
  · intro front u back h
    exact absurd h (by simp [begin, initial])

namespace Told

/-- Of a block that has completed this has been heard. -/
lemma completed_mem (h : Told s r) (hi : i < s.size) (hstatus : r.status i = .completed) :
    ∃ v ∈ r.listener.heard, v.blockId = (s.block i).id ∧ v.status = .completed := by
  have hstatus : (r.cell i).state.status = .completed := hstatus
  have hhistory := h.histories i hi
  simp only [BlockState.history, hstatus] at hhistory
  refine ⟨{ blockId := (s.block i).id
            status := .completed
            output := some (r.cell i).state.outputs }, ?_, rfl, rfl⟩
  refine List.mem_of_mem_filter (p := fun u => u.blockId = (s.block i).id) ?_
  rw [hhistory]
  exact List.mem_cons_of_mem _ List.mem_cons_self

/-- Nothing is said, and no state changes as far as histories go. -/
lemma silent (h : Told s r) (hsize : r'.cells.length = r.cells.length)
    (hlistener : r'.listener = r.listener)
    (hcell : ∀ i id, (r'.cell i).state.history id = (r.cell i).state.history id) : Told s r' := by
  refine ⟨by rw [hsize, h.size], hlistener ▸ h.stays, ?_, hlistener ▸ h.named,
    hlistener ▸ h.ordered⟩
  intro i hi
  rw [hlistener, hcell, h.histories i hi]

/-- **One update about one block** is told while that block moves on by it. -/
lemma spoken (hs : s.Planned) (h : Told s r) {u : ExecutionUpdate} (hi : i < s.size)
    (hid : u.blockId = (s.block i).id) (hsize : r'.cells.length = r.cells.length)
    (hlistener : r'.listener = r.listener.tell u)
    (hother : ∀ j, j ≠ i → r'.cell j = r.cell j)
    (hself : (r'.cell i).state.history (s.block i).id =
      (r.cell i).state.history (s.block i).id ++ [u])
    (hready : u.status = .running → ∀ v ∈ s.plan.sources i, r.status v = .completed) :
    Told s r' := by
  rw [h.stays.tell u] at hlistener
  have hheard : r'.listener.heard = r.listener.heard ++ [u] := by rw [hlistener]
  refine ⟨by rw [hsize, h.size], by rw [hlistener]; exact h.stays, ?_, ?_, ?_⟩
  · intro j hj
    rw [hheard, List.filter_append, h.histories j hj]
    by_cases hji : j = i
    · subst hji
      rw [hself]
      simp [hid]
    · have hne : ¬ (s.block i).id = (s.block j).id := fun heq => hji (hs.id_inj hi hj heq).symm
      rw [hother j hji]
      simp [hid, hne]
  · intro v hv
    rw [hheard] at hv
    rcases List.mem_append.mp hv with hv | hv
    · exact h.named v hv
    · rw [List.mem_singleton.mp hv]
      exact ⟨i, hi, hid⟩
  · intro front v back heq hrunning c hc htarget
    rw [hheard] at heq
    rcases List.eq_nil_or_concat back with rfl | ⟨back, last, rfl⟩
    · -- the update that was just told
      obtain ⟨rfl, heq⟩ := List.append_inj' heq rfl
      obtain rfl : u = v := by simpa using heq
      obtain ⟨w, hw⟩ := Workflow.exists_position?_iff.mpr (hs.wellFormed.source_mem c hc)
      have hpi : s.workflow.position? c.target = some i := by
        rw [htarget, hid]
        exact Workflow.position?_of_getElem? hs.wellFormed.ids (RunSetup.block_mem hi)
      have hsource : w ∈ s.plan.sources i :=
        hs.lawful.mem_sources.mpr ((hs.lawful.edges w i).mpr ⟨c, hc, hw, hpi⟩)
      have hlt : w < s.size := Workflow.position?_lt hw
      obtain ⟨x, hx, hxid, hxstatus⟩ := h.completed_mem hlt (hready hrunning w hsource)
      refine ⟨x, hx, ?_, hxstatus⟩
      have hwid := Workflow.position?_id hw
      rw [RunSetup.block_mem hlt] at hwid
      rw [hxid]
      exact Option.some.inj hwid
    · have heq' : r.listener.heard ++ [u] = (front ++ v :: back) ++ [last] := by
        simpa using heq
      exact h.ordered front v back (List.append_inj' heq' rfl).1 hrunning c hc htarget

/-- **Every move tells what it does.** -/
theorem move (hs : s.Planned) (h : Told s r) (hmove : Move s r r') : Told s r' := by
  have hlt : ∀ {i}, r.status i = .running → i < r.cells.length :=
    fun hi => lt_of_status_ne (by rw [hi]; nofun)
  have hsize := hmove.size
  cases hmove with
  | keeps _ hcell hlistener =>
      refine h.silent hsize hlistener fun i id => ?_
      obtain ⟨n, hn⟩ := hcell i
      rw [hn]
  | @notes i hi e =>
      refine h.silent hsize rfl fun j id => ?_
      by_cases hj : j = i
      · subst hj
        have hrunning : (r.cell j).state.status = .running := hi
        rw [cell_noted_self (hlt hi)]
        simp [BlockState.history, hrunning]
      · rw [cell_noted_of_ne hj]
  | @starts i hi hpending hready =>
      have hstatus : (r.cell i).state.status = .pending := hpending
      refine h.spoken hs (by rw [← h.size]; exact hi) rfl hsize rfl
        (fun j hj => cell_start_of_ne hj) ?_ (fun _ => hready)
      rw [cell_start_self hi]
      simp [BlockState.history, hstatus]
  | @completes i hi outputs =>
      have hstatus : (r.cell i).state.status = .running := hi
      refine h.spoken hs (by rw [← h.size]; exact hlt hi) rfl hsize rfl
        (fun j hj => cell_complete_of_ne hj outputs) ?_ nofun
      rw [cell_complete_self (hlt hi)]
      simp [BlockState.history, hstatus]
  | @fails i hi e =>
      have hstatus : (r.cell i).state.status = .running := hi
      refine h.spoken hs (by rw [← h.size]; exact hlt hi) rfl hsize rfl
        (fun j hj => cell_recordFailure_of_ne hj e) ?_ nofun
      rw [cell_recordFailure_self (hlt hi)]
      simp [BlockState.history, hstatus]
  | @skips i hi hpending =>
      have hstatus : (r.cell i).state.status = .pending := hpending
      refine h.spoken hs (by rw [← h.size]; exact hi) rfl hsize rfl
        (fun j hj => cell_skip_of_ne hj) ?_ nofun
      rw [cell_skip_self hi]
      simp [BlockState.history, hstatus]

lemma path (hs : s.Planned) (h : Told s r) (hpath : Path s r r') : Told s r' := by
  induction hpath with
  | refl => exact h
  | tail _ hmove ih => exact ih.move hs hmove

end Told

/-! ## Whole runs -/

lemma told_close (hs : s.Planned) (cancelled : Bool) (events : List RunEvent) :
    Told s (close s (after s (begin s {} cancelled) events)) := by
  have hsound := sound_begin hs {} cancelled
  have hafter := path_after hs events _ hsound
  have hclose := path_close hs (sound_after hs {} cancelled events).size
  exact (told_begin hs cancelled).path hs (hafter.trans hclose)

/-- The same run, told to someone else. -/
lemma after_begin_relisten (s : RunSetup) (cancelled : Bool) (events : List RunEvent) :
    ∃ us : List ExecutionUpdate, ∀ l,
      after s (begin s l cancelled) events =
        (after s (begin s {} cancelled) events).relisten (us.foldl Listener.tell l) := by
  obtain ⟨us, hus⟩ := speaks_after s events (begin s {} cancelled)
  exact ⟨us, hus⟩

/-- Whoever listens from the beginning hears a beginning of what one who stays hears. -/
lemma heard_beginning (s : RunSetup) (cancelled : Bool) (events : List RunEvent) {l : Listener}
    (hl : l.heard = []) :
    (close s (after s (begin s l cancelled) events)).listener.heard <+:
      (close s (after s (begin s {} cancelled) events)).listener.heard := by
  have hspeaks : Speaks fun r => close s (after s r events) :=
    (speaks_close s).comp (speaks_after s events)
  obtain ⟨us, hus⟩ := hspeaks (begin s {} cancelled)
  have hleft : (close s (after s (begin s l cancelled) events)).listener =
      us.foldl Listener.tell l := congrArg listener (hus l)
  have hstay : (close s (after s (begin s {} cancelled) events)).listener =
      us.foldl Listener.tell {} := congrArg listener (hus {})
  rw [hleft, hstay, Listener.foldl_tell_of_stays us {} ⟨rfl, rfl⟩]
  simpa [hl] using (Listener.foldl_tell_beginning us l).2

lemma conclude_relisten (s : RunSetup) (r : Run) (l : Listener) :
    conclude s (r.relisten l) = conclude s r := by
  obtain ⟨us, hus⟩ := speaks_close s r
  show result s (close s (r.relisten l)) r.cancelled = result s (close s r) r.cancelled
  rw [show close s (r.relisten l) = _ from hus l]
  rfl

/-- **What is heard of a run.**  In every run that has a plan, whatever happens in it and whenever
it is cancelled:

* a listener that stays hears of every block exactly the history of the state that the result
  shows for it, and of nothing else;
* it hears that a block runs after it heard that the blocks before it completed;
* one that leaves has heard the beginning of that, and the run ends no differently for it. -/
theorem heard_to_the_end (hs : s.Planned) (cancelled : Bool) (events : List RunEvent) :
    let r := after s (begin s {} cancelled) events
    let heard := (close s r).listener.heard
    (∀ b ∈ s.workflow.blocks, ∃ state, (conclude s r).blockStates.get? b.id = some state ∧
        state.status.isTerminal ∧ (heard.filter fun u => u.blockId = b.id) = state.history b.id) ∧
      (∀ u ∈ heard, u.blockId ∈ s.workflow.blocks.map Block.id) ∧
      (∀ front u back, heard = front ++ u :: back → u.status = .running →
        ∀ c ∈ s.workflow.connections, c.target = u.blockId →
          ∃ v ∈ front, v.blockId = c.source ∧ v.status = .completed) ∧
      ∀ l : Listener, l.heard = [] →
        let left := after s (begin s l cancelled) events
        (close s left).listener.heard <+: heard ∧ left.isDrained = r.isDrained ∧
          conclude s left = conclude s r := by
  intro r heard
  have hsize : r.cells.length = s.size := (sound_after hs {} cancelled events).size
  have htold : Told s (close s r) := told_close hs cancelled events
  refine ⟨fun b hb => ?_, fun u hu => ?_, htold.ordered, fun l hl => ?_⟩
  · obtain ⟨i, hi, rfl⟩ := List.mem_iff_getElem.mp hb
    have hblock : s.workflow.blocks[i] = s.block i := by
      have := RunSetup.block_mem hi
      rwa [List.getElem?_eq_getElem hi, Option.some_inj] at this
    rw [hblock]
    exact ⟨_, get?_blockStates hs hsize hi, isTerminal_close hs hsize hi, htold.histories i hi⟩
  · obtain ⟨i, hi, hid⟩ := htold.named u hu
    rw [hid]
    exact List.mem_map_of_mem (List.mem_of_getElem? (RunSetup.block_mem hi))
  · obtain ⟨us, hus⟩ := after_begin_relisten s cancelled events
    refine ⟨heard_beginning s cancelled events hl, ?_, ?_⟩
    · rw [hus l]
      rfl
    · rw [hus l]
      exact conclude_relisten s _ _

/-- A run in which the first block completes, the second one is cancelled, and the listener has
left after the first update. -/
theorem heard_to_the_end_pipeline :
    let events : List RunEvent :=
      [.proceeds, .returns 0 { result := .ok { outputs := [] } }, .joins 0, .proceeds, .cancels,
        .returns 1 { result := .ok { outputs := [] } }, .joins 1]
    RunSetup.pipeline.Planned ∧
      (close RunSetup.pipeline (after RunSetup.pipeline
        (begin RunSetup.pipeline { leavesAfter := some 1 } false) events)).listener.heard <+:
      (close RunSetup.pipeline (after RunSetup.pipeline
        (begin RunSetup.pipeline {} false) events)).listener.heard := by
  intro events
  have h := heard_to_the_end RunSetup.planned_pipeline false events
  exact ⟨RunSetup.planned_pipeline, (h.2.2.2 { leavesAfter := some 1 } rfl).1⟩

end Run

end Blockflow
