import Blockflow.Proofs.Run.Agreement
import Blockflow.Proofs.Run.Ledger

/-!
# Comparing runs

Two runs of one workflow may differ in what their blocks come to and in the order in which they
return.  They are not compared event by event: each of them ends like the evaluation of its blocks
one at a time, and evaluations are compared block by block, in the order of the plan.

* `state_close` — the states of a run that has ended are those of the evaluation.
* **`sequential_congr`** — where what blocks come to looks alike, up to what the blocks behind them
  see of it, evaluations look alike.
* **`unaffected_by_other_block`** — what a block comes to concerns itself and the blocks that can be
  reached from it, and no other.
* `Run.FollowsSome`, **`exists_outcomes`** — a block returns at most once, so in any run what blocks
  come to can be taken to be given in advance.
-/

namespace Blockflow

/-! ## Evaluations -/

namespace Run

variable {s : RunSetup} {outcome outcome' : Outcomes} {r : Run} {i j : Nat}

/-- **Evaluations look alike** on blocks which come to ends that look alike, along with all blocks
before them, provided that what looks alike has one status and the same outputs. -/
theorem sequential_congr (hs : s.Planned) (outcome outcome' : Outcomes)
    (alike : BlockState → BlockState → Prop) {p : Nat → Prop}
    (hclosed : ∀ i, p i → ∀ u ∈ s.plan.sources i, p u)
    (hrefl : ∀ b, alike b b)
    (hseen : ∀ b b', alike b b' → b'.status = b.status ∧ b'.outputs = b.outputs)
    (hrecord : ∀ i, p i → ∀ inputs, alike ((outcome i inputs).record s.authoritative inputs)
      ((outcome' i inputs).record s.authoritative inputs)) (hi : i < s.size) (hp : p i) :
    alike ((sequential s outcome).cell i).state ((sequential s outcome').cell i).state ∧
      ((sequential s outcome').cell i).output = ((sequential s outcome).cell i).output := by
  induction hn : s.plan.rank i using Nat.strong_induction_on generalizing i with
  | _ n ih =>
      have hbefore : ∀ u ∈ s.plan.sources i,
          alike ((sequential s outcome).cell u).state ((sequential s outcome').cell u).state ∧
            ((sequential s outcome').cell u).output = ((sequential s outcome).cell u).output := by
        intro u hu
        have hedge := hs.lawful.mem_sources.mp hu
        exact ih _ (hn ▸ hs.lawful.rank_lt hedge) (hs.lawful.lt_of_edge hedge).1
          (hclosed i hp u hu) rfl
      have hready : (sequential s outcome').isReady s i = (sequential s outcome).isReady s i :=
        isReady_congr fun u hu => (hseen _ _ (hbefore u hu).1).1
      have hinputs : blockInputs s (sequential s outcome') i =
          blockInputs s (sequential s outcome) i :=
        blockInputs_congr hs hi fun u hu => (hbefore u hu).2
      by_cases h : (sequential s outcome).isReady s i = true
      · obtain ⟨hstate, houtput⟩ := cell_sequential_of_isReady hs hi h
        obtain ⟨hstate', houtput'⟩ := cell_sequential_of_isReady hs hi (hready.trans h)
        rw [endOf, hinputs] at hstate' houtput'
        have halike := hrecord i hp (blockInputs s (sequential s outcome) i)
        obtain ⟨hstatus, houtputs⟩ := hseen _ _ halike
        rw [hstate, hstate', houtput, houtput', endOf, hstatus, houtputs]
        exact ⟨halike, rfl⟩
      · have h' : ¬ (sequential s outcome').isReady s i = true := by rw [hready]; exact h
        obtain ⟨hstate, houtput⟩ := cell_sequential_of_not_isReady hs hi h
        obtain ⟨hstate', houtput'⟩ := cell_sequential_of_not_isReady hs hi h'
        rw [hstate, hstate', houtput, houtput']
        exact ⟨hrefl _, rfl⟩

/-! ## Runs that have ended -/

section Ended

variable (hs : s.Planned) (listener : Listener) {events : List RunEvent}
  (hfollows : Along s (Follows outcome) (begin s listener false) events)
  (hdrained : (after s (begin s listener false) events).isDrained)

include hs hfollows

lemma uncancelled_of_follows : (after s (begin s listener false) events).cancelled = false :=
  (agrees_after hs listener hfollows).2.uncancelled

include hdrained

/-- **A run that has ended holds what its evaluation holds.** -/
lemma cell_close_of_follows (hi : i < s.size) :
    let c := (close s (after s (begin s listener false) events)).cell i
    c.state.untimed = ((sequential s outcome).cell i).state ∧
      c.output = ((sequential s outcome).cell i).output := by
  obtain ⟨hagrees, hlive⟩ := agrees_after hs listener hfollows
  have hterminal := hlive.isTerminal hs hagrees.sound hdrained hi
  rw [cell_close hs hagrees.sound.size hi, Cell.settled_of_isTerminal _ hterminal]
  exact (hagrees.cells i hi).of_isTerminal hterminal

/-- So does its result. -/
lemma get?_of_follows (hi : i < s.size) :
    ∃ b, (conclude s (after s (begin s listener false) events)).blockStates.get? (s.block i).id =
        some b ∧ b.untimed = ((sequential s outcome).cell i).state := by
  have hsize := (agrees_after hs listener hfollows).1.sound.size
  exact ⟨_, get?_blockStates hs hsize hi,
    (cell_close_of_follows hs listener hfollows hdrained hi).1⟩

end Ended

/-! ## Blocks that do not depend on each other -/

/-- **What a block comes to concerns only itself and what can be reached from it.**  Take two runs
of a workflow on the same input in which every block but one comes to the same on the same inputs,
whatever that one block comes to in either of them, whoever listens and in whatever order blocks
return.  When both have ended, every block that is not that one and cannot be reached from it has
the same recorded state in both, apart from times. -/
theorem unaffected_by_other_block (hs : s.Planned) (outcome outcome' : Outcomes) {f : Nat}
    (hother : ∀ i, i ≠ f → ∀ inputs, outcome' i inputs = outcome i inputs)
    (listener listener' : Listener) {events events' : List RunEvent}
    (hfollows : Along s (Follows outcome) (begin s listener false) events)
    (hfollows' : Along s (Follows outcome') (begin s listener' false) events')
    (hdrained : (after s (begin s listener false) events).isDrained)
    (hdrained' : (after s (begin s listener' false) events').isDrained)
    (hi : i < s.size) (hne : i ≠ f) (hapart : ¬ Relation.TransGen s.workflow.Joins f i) :
    let e := conclude s (after s (begin s listener false) events)
    let e' := conclude s (after s (begin s listener' false) events')
    ∃ b b', e.blockStates.get? (s.block i).id = some b ∧
      e'.blockStates.get? (s.block i).id = some b' ∧ b'.untimed = b.untimed := by
  intro e e'
  -- nothing that leads to a block apart from `f` comes from `f`
  have hclosed : ∀ j, j ≠ f ∧ ¬ Relation.TransGen s.workflow.Joins f j →
      ∀ u ∈ s.plan.sources j, u ≠ f ∧ ¬ Relation.TransGen s.workflow.Joins f u := by
    rintro j ⟨_, hj⟩ u hu
    have hjoins : s.workflow.Joins u j :=
      (hs.lawful.edges u j).mp (hs.lawful.mem_sources.mp hu)
    refine ⟨?_, fun hpath => hj (hpath.tail hjoins)⟩
    rintro rfl
    exact hj (.single hjoins)
  have hsame := (sequential_congr hs outcome outcome' Eq hclosed (fun _ => rfl)
    (fun b b' h => by rw [h]; exact ⟨rfl, rfl⟩)
    (fun j hj inputs => by rw [hother j hj.1 inputs]) hi ⟨hne, hapart⟩).1
  obtain ⟨b, hb, hstate⟩ := get?_of_follows hs listener hfollows hdrained hi
  obtain ⟨b', hb', hstate'⟩ := get?_of_follows hs listener' hfollows' hdrained' hi
  exact ⟨b, b', hb, hb', by rw [hstate, hstate', hsame]⟩

/-- Two blocks in a row, the second of which succeeds in one run and is late in the other: the first
one does not notice. -/
theorem unaffected_by_other_block_pipeline :
    let fine : BlockEnd := { result := .ok {} }
    let late : BlockEnd := { result := .error (.blockTimeout "second" 30) }
    let front : List RunEvent := [.proceeds, .returns 0 fine, .joins 0, .proceeds]
    let last := after RunSetup.pipeline (begin RunSetup.pipeline {} false)
      (front ++ [.returns 1 fine, .joins 1])
    let last' := after RunSetup.pipeline (begin RunSetup.pipeline {} false)
      (front ++ [.returns 1 late, .joins 1])
    RunSetup.pipeline.Planned ∧ last.isDrained ∧ last'.isDrained ∧
      ∃ b b', (conclude RunSetup.pipeline last).blockStates.get? "first" = some b ∧
        (conclude RunSetup.pipeline last').blockStates.get? "first" = some b' ∧
        b'.untimed = b.untimed := by
  intro fine late front last last'
  have hdrained : last.isDrained := by decide
  have hdrained' : last'.isDrained := by decide
  have hapart : ¬ Relation.TransGen RunSetup.pipeline.workflow.Joins 1 0 := by
    intro hpath
    have hlawful := RunSetup.planned_pipeline.lawful
    have hrank := hlawful.rank_lt_of_transGen
      (Relation.TransGen.mono (fun u v => (hlawful.edges u v).mpr) _ _ hpath)
    exact absurd hrank (by decide)
  refine ⟨RunSetup.planned_pipeline, hdrained, hdrained', ?_⟩
  exact unaffected_by_other_block (i := 0) (f := 1) RunSetup.planned_pipeline (fun _ _ => fine)
    (fun i _ => if i = 1 then late else fine) (fun i hi _ => if_neg hi) {} {}
    ⟨trivial, rfl, trivial, trivial, rfl, trivial, trivial⟩
    ⟨trivial, rfl, trivial, trivial, rfl, trivial, trivial⟩ hdrained hdrained' (by decide)
    (by decide) hapart

/-! ## Blocks return once -/

/-- **The events of a run in which every block comes to something that is possible on its inputs**,
and which nobody cancels. -/
def FollowsSome (possible : Nat → Json.Object → BlockEnd → Prop) (r : Run) : RunEvent → Prop
  | .returns i e => possible i (r.cell i).state.inputs e
  | .joins _ | .proceeds | .ticks _ => True
  | .loses _ | .cancels => False

/-- A block that may still return: it runs, or was not started. -/
def MayReturn (r : Run) (i : Nat) : Prop := i ∈ r.running ∨ i ∉ r.started

lemma mayReturn_of_effect (h : Sound s r) {event : RunEvent} {r' : Run}
    (heffect : Effect s r event r') (hi : MayReturn r' i) : MayReturn r i := by
  rcases hi with hi | hi
  · exact mem_running_of_effect h heffect hi
  · exact Or.inr fun hstarted => hi (started_subset heffect hstarted)

/-- A block that has returned does not return again. -/
lemma not_mayReturn_returns (h : Sound s r) (hi : i ∈ r.running) (e : BlockEnd) :
    ¬ MayReturn (step s r (.returns i e)) i := by
  rintro (hmem | hmem)
  · rw [step, if_pos (by simpa using hi)] at hmem
    exact h.not_mem_vacate hi hmem
  · rw [started_returns] at hmem
    exact hmem (h.mem_started hi)

/-- What is allowed may be weakened, event by event. -/
lemma Along.mono {allowed allowed' : Run → RunEvent → Prop} (events : List RunEvent) : ∀ r,
    Along s allowed r events → (∀ r, ∀ event ∈ events, allowed r event → allowed' r event) →
    Along s allowed' r events := by
  induction events with
  | nil => exact fun _ _ _ => trivial
  | cons event events ih =>
      rintro r ⟨hevent, hevents⟩ hle
      exact ⟨hle r event List.mem_cons_self hevent,
        ih _ hevents fun r e he => hle r e (List.mem_cons_of_mem _ he)⟩

/-- What blocks come to matters for those that return only. -/
lemma Along.of_same (events : List RunEvent) : ∀ r, Along s (Follows outcome) r events →
    (∀ i e, .returns i e ∈ events → outcome' i = outcome i) →
    Along s (Follows outcome') r events := by
  induction events with
  | nil => exact fun _ _ _ => trivial
  | cons event events ih =>
      rintro r ⟨hevent, hevents⟩ hsame
      refine ⟨?_, ih _ hevents fun i e he => hsame i e (List.mem_cons_of_mem _ he)⟩
      cases event with
      | returns i e =>
          rw [Follows, hsame i e List.mem_cons_self]
          exact hevent
      | joins | proceeds | ticks | loses | cancels => exact hevent

/-- **What blocks come to can be taken to be given in advance**, since each returns at most once:
the run follows some outcomes, all of them possible, when returns of blocks that do not run are
left out. -/
theorem exists_outcomes (hs : s.Planned) {possible : Nat → Json.Object → BlockEnd → Prop}
    (hpossible : ∀ i inputs, ∃ e, possible i inputs e) (events : List RunEvent) : ∀ r, Sound s r →
    Along s (FollowsSome possible) r events →
    ∃ outcome events', (∀ i inputs, possible i inputs (outcome i inputs)) ∧
      Along s (Follows outcome) r events' ∧ after s r events' = after s r events ∧
      ∀ i e, .returns i e ∈ events' → MayReturn r i := by
  classical
  induction events with
  | nil =>
      intro r _ _
      choose outcome houtcome using hpossible
      exact ⟨outcome, [], houtcome, trivial, rfl, nofun⟩
  | cons event events ih =>
      rintro r hsound ⟨hevent, hevents⟩
      have heffect := step_effect s r event
      obtain ⟨outcome, rest, houtcome, hrest, hafter, hreturns⟩ :=
        ih _ (hsound.of_effect hs heffect) hevents
      have hmay : ∀ i e, .returns i e ∈ event :: rest → (∀ e, event ≠ .returns i e) →
          MayReturn r i := by
        intro i e he hne
        have he := (List.mem_cons.mp he).resolve_left fun heq => hne e heq.symm
        exact mayReturn_of_effect hsound heffect (hreturns i e he)
      have hquiet (hfollows : Follows outcome r event) (hne : ∀ i e, event ≠ .returns i e) :
          ∃ outcome events', (∀ i inputs, possible i inputs (outcome i inputs)) ∧
            Along s (Follows outcome) r events' ∧
            after s r events' = after s r (event :: events) ∧
            ∀ i e, .returns i e ∈ events' → MayReturn r i :=
        ⟨outcome, event :: rest, houtcome, ⟨hfollows, hrest⟩, hafter,
          fun i e he => hmay i e he (hne i)⟩
      cases event with
      | joins | proceeds | ticks => exact hquiet trivial nofun
      | loses => exact absurd hevent id
      | cancels => exact absurd hevent id
      | returns k x =>
          by_cases hk : k ∈ r.running
          · -- the block does not return again, so its outcome may be settled now
            have hsame : ∀ i e, .returns i e ∈ rest → i ≠ k := by
              rintro i e he rfl
              exact not_mayReturn_returns hsound hk x (hreturns i e he)
            have hpossible : ∀ i inputs, possible i inputs (Function.update outcome k
                (Function.update (outcome k) (r.cell k).state.inputs x) i inputs) := by
              refine (Function.forall_update_iff outcome
                fun i f => ∀ inputs, possible i inputs (f inputs)).mpr
                  ⟨(Function.forall_update_iff (outcome k) (possible k)).mpr ⟨hevent, ?_⟩, ?_⟩
              · exact fun inputs _ => houtcome k inputs
              · exact fun i _ => houtcome i
            refine ⟨_, .returns k x :: rest, hpossible, ⟨?_, ?_⟩, hafter, fun i e he => ?_⟩
            · rw [Follows, Function.update_self, Function.update_self]
            · exact Along.of_same rest _ hrest fun i e he => Function.update_of_ne (hsame i e he) _ _
            · by_cases hik : i = k
              · exact Or.inl (hik ▸ hk)
              · exact hmay i e he fun y heq => hik (RunEvent.returns.inj heq).1.symm
          · have hidle : step s r (.returns k x) = r := by rw [step, if_neg (by simpa using hk)]
            rw [hidle] at hrest hafter hreturns
            exact ⟨outcome, rest, houtcome, hrest, by rw [after_cons, hidle, hafter], hreturns⟩

end Run

end Blockflow
