import Blockflow.Proofs.Run.Cells
import Blockflow.Proofs.Usage

/-!
# What an event does to a run

`Run.step` guards every event: one that is not possible changes nothing.  Here the guards are
taken off once.  What is left is one alternative for each event, with what its guard promised,
and every fact about all runs is proved by going through these alternatives.

* **`Run.Effect`**, `step_effect` — the alternatives.
* **`finish_eq`** — writing down the end of a block is noting something, and then completing or
  failing it: `BlockEnd.failure?`, `BlockEnd.note`, `BlockEnd.usage` and `BlockEnd.delivered`
  say which, what and how much.
* `Run.Along`, **`after_induction`** — a condition on every event of a run, and the induction
  that carries an invariant along it.
-/

namespace Blockflow

/-! ## What an end comes to -/

namespace BlockEnd

/-- The error that the end of a block counts as, if any. -/
def failure? (authoritative : Bool) (e : BlockEnd) : Option Error :=
  match e.result with
  | .error failure => some failure
  | .ok _ => if authoritative then e.rejection.map .checkFailed else none

/-- The outputs that the executor came to. -/
def delivered (e : BlockEnd) : Json.Object :=
  match e.result with
  | .error _ => []
  | .ok output => stripReserved output.outputs

/-- What is noted of a rejection: a warning, or the outputs where it fails the block. -/
def note (authoritative : Bool) (e : BlockEnd) (b : BlockState) : BlockState :=
  match e.result, e.rejection with
  | .ok _, some reason =>
    if authoritative then { b with outputs := e.delivered } else { b with warning := some reason }
  | _, _ => b

/-- What the block has cost. -/
def usage (e : BlockEnd) : TokenUsage :=
  e.checkUsage +
    match e.result with
    | .error _ => 0
    | .ok output => output.usage

variable (authoritative : Bool) (e : BlockEnd) (b : BlockState)

@[simp] lemma note_status : (e.note authoritative b).status = b.status := by
  rw [note]
  split
  · split <;> rfl
  · rfl

@[simp] lemma note_inputs : (e.note authoritative b).inputs = b.inputs := by
  rw [note]
  split
  · split <;> rfl
  · rfl

/-- In a cancelled run every end is a failure. -/
lemma exists_failure_under_true : ∃ f, (e.under true).failure? authoritative = some f := by
  rw [under]
  split
  · exact ⟨.cancelled, rfl⟩
  · next f hf => exact ⟨f, by rw [failure?, hf]⟩

lemma under_false : e.under false = e := by
  rw [under]
  split <;> simp

end BlockEnd

namespace Run

variable {s : RunSetup} {r : Run} {i : Nat}

/-! ## Writing down an end -/

/-- A run in which something is noted of a block, and its cost is counted. -/
def noted (s : RunSetup) (r : Run) (i : Nat) (e : BlockEnd) : Run :=
  ({ r with usage := r.usage + e.usage } : Run).modifyState i (e.note s.authoritative)

lemma modifyState_id (f : BlockState → BlockState) (hf : ∀ b, f b = b) : r.modifyState i f = r := by
  have : (fun c : Cell => { c with state := f c.state }) = id := by
    funext c
    simp [hf]
  rw [modifyState, modifyCell, this, List.modify_id]

/-- **The end of a block**: something may be noted, and then the block has failed or completed. -/
theorem finish_eq (s : RunSetup) (r : Run) (i : Nat) (e : BlockEnd) :
    finish s r i e =
      match e.failure? s.authoritative with
      | some failure => fail s (noted s r i e) i failure
      | none => complete s (noted s r i e) i e.delivered := by
  obtain ⟨result, verdict, checkUsage⟩ := e
  cases result with
  | error failure =>
      simp only [finish, BlockEnd.failure?, noted, BlockEnd.usage, add_zero]
      rw [modifyState_id _ (fun b => by simp [BlockEnd.note])]
  | ok output =>
      cases hrej : BlockEnd.rejection ⟨.ok output, verdict, checkUsage⟩ with
      | none =>
          simp only [finish, BlockEnd.failure?, noted, BlockEnd.usage, hrej, Option.map_none,
            ite_self, BlockEnd.delivered]
          rw [modifyState_id _ (fun b => by simp [BlockEnd.note, hrej]), add_assoc]
      | some reason =>
          cases hauth : s.authoritative with
          | true =>
              have hnote : BlockEnd.note true ⟨.ok output, verdict, checkUsage⟩ =
                  fun b => { b with outputs := stripReserved output.outputs } := by
                funext b
                simp [BlockEnd.note, hrej, BlockEnd.delivered]
              simp only [finish, BlockEnd.failure?, noted, BlockEnd.usage, hrej, hauth, if_true,
                Option.map_some, hnote, add_assoc]
          | false =>
              have hnote : BlockEnd.note false ⟨.ok output, verdict, checkUsage⟩ =
                  fun b => { b with warning := some reason } := by
                funext b
                simp [BlockEnd.note, hrej]
              simp only [finish, BlockEnd.failure?, noted, BlockEnd.usage, hrej, hauth,
                Bool.false_eq_true, if_false, hnote, BlockEnd.delivered, add_assoc]

@[simp] lemma length_noted (e : BlockEnd) : (noted s r i e).cells.length = r.cells.length :=
  length_modifyCell _

lemma cell_noted_self (h : i < r.cells.length) (e : BlockEnd) :
    (noted s r i e).cell i =
      { r.cell i with state := e.note s.authoritative (r.cell i).state } :=
  cell_modifyCell_self h _

lemma cell_noted_of_ne {j : Nat} (h : j ≠ i) (e : BlockEnd) :
    (noted s r i e).cell j = r.cell j :=
  cell_modifyCell_of_ne h _

lemma waiting_noted (e : BlockEnd) (j : Nat) :
    ((noted s r i e).cell j).waiting = (r.cell j).waiting := by
  by_cases hj : j = i
  · subst hj
    by_cases hlt : j < r.cells.length
    · rw [cell_noted_self hlt]
    · have hnone : r.cells[j]? = none := List.getElem?_eq_none (by omega)
      have hnone' : (noted s r j e).cells[j]? = none :=
        List.getElem?_eq_none (by rw [length_noted]; omega)
      rw [cell, cell, hnone, hnone']
  · rw [cell_noted_of_ne hj]

@[simp] lemma status_noted (e : BlockEnd) (j : Nat) :
    (noted s r i e).status j = r.status j := by
  by_cases hj : j = i
  · subst hj
    by_cases hlt : j < r.cells.length
    · rw [status, cell_noted_self hlt, BlockEnd.note_status, status]
    · have hnone : r.cells[j]? = none := List.getElem?_eq_none (by omega)
      have hnone' : (noted s r j e).cells[j]? = none :=
        List.getElem?_eq_none (by rw [length_noted]; omega)
      rw [status, status, cell, cell, hnone, hnone']
  · rw [status, status, cell_noted_of_ne hj]

/-! ## The alternatives of a step -/

/-- A run after a block has been told that one less is to wait for. -/
def counted (r : Run) (i : Nat) (rest : List Chore) : Run :=
  ({ r with chores := rest } : Run).modifyCell i fun c => { c with waiting := c.waiting - 1 }

lemma cell_counted_self (h : i < r.cells.length) (rest : List Chore) :
    (r.counted i rest).cell i = { r.cell i with waiting := (r.cell i).waiting - 1 } :=
  cell_modifyCell_self (r := { r with chores := rest }) h _

lemma cell_counted_of_ne {j : Nat} (h : j ≠ i) (rest : List Chore) :
    (r.counted i rest).cell j = r.cell j :=
  cell_modifyCell_of_ne (r := { r with chores := rest }) h _

@[simp] lemma length_counted (rest : List Chore) :
    (r.counted i rest).cells.length = r.cells.length :=
  length_modifyCell _

/-- Counting down changes counters only. -/
lemma cell_counted (rest : List Chore) (j : Nat) :
    ∃ n, (r.counted i rest).cell j = { r.cell j with waiting := n } := by
  by_cases hlt : i < r.cells.length
  · by_cases hj : j = i
    · subst hj
      exact ⟨_, cell_counted_self hlt rest⟩
    · exact ⟨_, cell_counted_of_ne hj rest⟩
  · have : (r.counted i rest).cells = r.cells := List.modify_eq_self (Nat.le_of_not_lt hlt)
    exact ⟨_, cell_congr this j⟩

lemma status_counted (rest : List Chore) (j : Nat) : (r.counted i rest).status j = r.status j := by
  obtain ⟨n, hn⟩ := cell_counted (r := r) (i := i) rest j
  rw [status, hn, status]

/-- A run that has taken what a block returned, and noted it. -/
def collected (s : RunSetup) (r : Run) (i : Nat) (e : BlockEnd) : Run :=
  noted s { r with returned := r.returned.filter fun x => x.1 ≠ i } i e

lemma cell_collected_self (h : i < r.cells.length) (e : BlockEnd) :
    (r.collected s i e).cell i =
      { r.cell i with state := e.note s.authoritative (r.cell i).state } :=
  cell_noted_self (r := { r with returned := _ }) h e

lemma cell_collected_of_ne {j : Nat} (h : j ≠ i) (e : BlockEnd) :
    (r.collected s i e).cell j = r.cell j :=
  cell_noted_of_ne (r := { r with returned := _ }) h e

lemma status_collected (e : BlockEnd) (j : Nat) : (r.collected s i e).status j = r.status j :=
  status_noted e j

/-- Whether an event can happen. -/
def Enabled (r : Run) : RunEvent → Prop
  | .returns i _ | .loses i => i ∈ r.running
  | .joins i => r.chores = [] ∧ ∃ e, (i, e) ∈ r.returned
  | .proceeds => r.chores ≠ []
  | .cancels | .ticks _ => True

/-- **What an event does**, with what its guards promise. -/
inductive Effect (s : RunSetup) (r : Run) : RunEvent → Run → Prop where
  | idle {event : RunEvent} (hno : ¬ r.Enabled event) : Effect s r event r
  | returned {i : Nat} {e : BlockEnd} (hi : i ∈ r.running) :
      Effect s r (.returns i e)
        { r with
          running := vacate r.running i
          returned := r.returned ++ [(i, e.under r.cancelled)] }
  | completed {i : Nat} {e : BlockEnd} (hchores : r.chores = []) (hmem : (i, e) ∈ r.returned)
      (hend : e.failure? s.authoritative = none) :
      Effect s r (.joins i) (complete s (r.collected s i e) i e.delivered)
  | failed {i : Nat} {e : BlockEnd} {failure : Error} (hchores : r.chores = [])
      (hmem : (i, e) ∈ r.returned) (hend : e.failure? s.authoritative = some failure) :
      Effect s r (.joins i) (fail s (r.collected s i e) i failure)
  | started {i : Nat} {rest : List Chore} (hchores : r.chores = .start i :: rest) :
      Effect s r .proceeds (start s { r with chores := rest } i)
  | counted {i : Nat} {rest : List Chore} (hchores : r.chores = .release i :: rest)
      (hwaits : ((r.counted i rest).cell i).waiting ≠ 0 ∨
        (r.counted i rest).status i ≠ .pending ∨ r.cancelled = true) :
      Effect s r .proceeds (r.counted i rest)
  | released {i : Nat} {rest : List Chore} (hchores : r.chores = .release i :: rest)
      (hwaiting : ((r.counted i rest).cell i).waiting = 0)
      (hpending : (r.counted i rest).status i = .pending) (hcancelled : r.cancelled = false) :
      Effect s r .proceeds (start s (r.counted i rest) i)
  | lost {i : Nat} (hi : i ∈ r.running) :
      Effect s r (.loses i) { r with running := vacate r.running i }
  | cancelled : Effect s r .cancels { r with cancelled := true }
  | ticked {now : Timestamp} : Effect s r (.ticks now) { r with now }

lemma joins_effect (hchores : r.chores = []) {e : BlockEnd} (hmem : (i, e) ∈ r.returned) :
    Effect s r (.joins i)
      (finish s { r with returned := r.returned.filter fun x => x.1 ≠ i } i e) := by
  rw [finish_eq]
  cases hend : e.failure? s.authoritative with
  | none => exact Effect.completed hchores hmem hend
  | some failure => exact Effect.failed hchores hmem hend

lemma release_eq (rest : List Chore) :
    release s { r with chores := rest } i =
      if ((r.counted i rest).cell i).waiting = 0 && (r.counted i rest).status i = .pending &&
        !r.cancelled then start s (r.counted i rest) i
      else r.counted i rest := rfl

lemma release_effect {rest : List Chore} (hchores : r.chores = .release i :: rest) :
    Effect s r .proceeds (release s { r with chores := rest } i) := by
  rw [release_eq]
  split_ifs with hguard
  · simp only [Bool.and_eq_true, decide_eq_true_eq, Bool.not_eq_true'] at hguard
    exact Effect.released hchores hguard.1.1 hguard.1.2 hguard.2
  · simp only [Bool.and_eq_true, decide_eq_true_eq, Bool.not_eq_true', not_and_or,
      Bool.not_eq_false, or_assoc] at hguard
    exact Effect.counted hchores hguard

/-- **Every step is one of the alternatives.** -/
theorem step_effect (s : RunSetup) (r : Run) (event : RunEvent) :
    Effect s r event (step s r event) := by
  cases event with
  | returns i e =>
      by_cases hi : i ∈ r.running
      · simpa [step, hi] using Effect.returned hi
      · have hidle : Effect s r (.returns i e) r := .idle hi
        simpa [step, hi] using hidle
  | joins i =>
      simp only [step]
      split_ifs with hchores
      · split
        · next x e hfind =>
            have hx : x = i := by simpa using List.find?_some hfind
            have hmem := List.mem_of_find?_eq_some hfind
            subst hx
            exact joins_effect (List.isEmpty_iff.mp hchores) hmem
        · next hfind =>
            refine Effect.idle ?_
            rintro ⟨_, e, he⟩
            simpa using List.find?_eq_none.mp hfind (i, e) he
      · refine Effect.idle ?_
        rintro ⟨hnil, _⟩
        exact hchores (List.isEmpty_iff.mpr hnil)
  | proceeds =>
      simp only [step]
      split
      · next hchores => exact Effect.idle fun h => h hchores
      · next chore rest hchores =>
          cases chore with
          | start i => exact Effect.started hchores
          | release i => exact release_effect hchores
  | loses i =>
      by_cases hi : i ∈ r.running
      · exact Effect.lost hi
      · have hidle : Effect s r (.loses i) r := .idle hi
        simpa [step, vacate_of_notMem hi] using hidle
  | cancels => exact Effect.cancelled
  | ticks now => exact Effect.ticked

/-! ## Runs -/

@[simp] lemma after_nil : after s r [] = r := rfl

@[simp] lemma after_cons (event : RunEvent) (events : List RunEvent) :
    after s r (event :: events) = after s (step s r event) events := rfl

lemma after_append (front back : List RunEvent) :
    after s r (front ++ back) = after s (after s r front) back := by
  simp [after]

/-- Nothing but a cancellation cancels a run. -/
lemma cancelled_of_effect {event : RunEvent} {r' : Run} (heffect : Effect s r event r')
    (hevent : event ≠ .cancels) : r'.cancelled = r.cancelled := by
  cases heffect with
  | failed => exact cancelled_fail _
  | cancelled => exact absurd rfl hevent
  | idle | returned | completed | started | counted | released | lost | ticked => rfl

lemma cancelled_after (events : List RunEvent) : ∀ r : Run, .cancels ∉ events →
    (after s r events).cancelled = r.cancelled := by
  induction events with
  | nil => exact fun _ _ => rfl
  | cons event events ih =>
      intro r h
      rw [List.mem_cons, not_or] at h
      exact (ih _ h.2).trans (cancelled_of_effect (step_effect s r event) (Ne.symm h.1))

/-- Every event of a run satisfies a condition on it and on the state it meets. -/
def Along (s : RunSetup) (allowed : Run → RunEvent → Prop) : Run → List RunEvent → Prop
  | _, [] => True
  | r, event :: events => allowed r event ∧ Along s allowed (step s r event) events

/-- **What every allowed step keeps holds after every allowed run.** -/
theorem after_induction {allowed : Run → RunEvent → Prop} {p : Run → Prop}
    (hstep : ∀ r event, p r → allowed r event → p (step s r event)) (events : List RunEvent) :
    ∀ r, p r → Along s allowed r events → p (after s r events) := by
  induction events with
  | nil => exact fun _ h _ => h
  | cons event events ih =>
      rintro r hr ⟨hevent, hevents⟩
      exact ih _ (hstep r event hr hevent) hevents

/-- What every step keeps holds after every run. -/
theorem after_invariant {p : Run → Prop} (hstep : ∀ r event, p r → p (step s r event))
    (events : List RunEvent) : ∀ r, p r → p (after s r events) := by
  induction events with
  | nil => exact fun _ h => h
  | cons event events ih => exact fun r hr => ih _ (hstep r event hr)

end Run

end Blockflow
