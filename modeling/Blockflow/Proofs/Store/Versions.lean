import Blockflow.Proofs.Store.Ownership
import Blockflow.Proofs.Workflow

/-!
# Numbers of saved workflows

A workflow gets its number when it is saved, by comparison with what the stored text of the agent
is read as.  So the numbers of an agent's workflows follow from one another through any calls in
between.  A save without a workflow leaves nothing to compare with: the numbers given until then
are forgotten, and the next workflow starts from the number that its caller gives.

* `Json.Codec.ReadsBack.kept` — what is read of a stored text.
* `Workflow.Recoverable` — workflows whose stored text is read back.
* `Store.Save`, `Store.saves` — the saves under one id among calls.
* `Store.Save.Follows`, `Store.Numbered` — the number that a save gives, and those of a row
  of saves.
* **`Store.perform_holds`** — one call, given what is stored under the id.
* **`Store.saves_numbered`** — any calls that do not delete the agent.
-/

namespace Blockflow

open Json

/-! ## Stored workflows -/

/-- What is read of a stored text. -/
lemma Json.Codec.ReadsBack.kept {α : Type} {c : Codec α} {P : α → Prop} {g : α → α}
    (h : c.ReadsBack P g) {x : α} (hx : P x) (hfloats : (c.write x).FloatsLegible) :
    kept c (c.write x).compact =
      if (c.write x).depth ≤ 127 then .ok (g x)
      else .error (.json "recursion limit exceeded") := by
  have hread := h.decode hx hfloats
  unfold Blockflow.kept Codec.ofText
  rw [hread]
  split_ifs <;> rfl

namespace Workflow

/-- The same workflow under another number. -/
def numbered (w : Workflow) (version : Nat) : Workflow := { w with version }

/-- A workflow as it is read, with numbers that the text layer reads back. -/
def Recoverable (w : Workflow) : Prop := w.Proper ∧ (codec.write w).FloatsLegible

/-- What is read of a stored workflow. -/
lemma kept_write {w : Workflow} (h : w.Recoverable) :
    kept codec (codec.write w).compact =
      if (codec.write w).depth ≤ 127 then .ok w.settled
      else .error (.json "recursion limit exceeded") :=
  readsBack.kept h.1 h.2

/-- The members of a written workflow. -/
def members (w : Workflow) : List (String × Json) :=
  [("id", .text w.id), ("blocks", .array (w.blocks.map Block.codec.write)),
    ("connections", .array (w.connections.map Connection.codec.write)),
    ("variables", .array (w.declarations.map WorkflowVariable.codec.write)),
    ("version", .nat w.version)]

lemma nodup_members (w : Workflow) : (w.members.map Prod.fst).Nodup := by
  simp [members]

lemma floatsLegible_write_iff {w : Workflow} :
    (codec.write w).FloatsLegible ↔ ∀ m ∈ w.members, m.2.FloatsLegible :=
  floatsLegible_ofList_iff w.nodup_members

lemma Recoverable.numbered {w : Workflow} (h : w.Recoverable) {version : Nat}
    (hversion : version ≤ maxInteger) : (w.numbered version).Recoverable := by
  refine ⟨⟨h.1.blocks, h.1.declarations, hversion⟩, ?_⟩
  have hfloats := floatsLegible_write_iff.mp h.2
  rw [floatsLegible_write_iff]
  simp only [members, Workflow.numbered, List.forall_mem_cons] at hfloats ⊢
  obtain ⟨hid, hblocks, hconnections, hvariables, -⟩ := hfloats
  refine ⟨hid, hblocks, hconnections, hvariables, ?_, by simp⟩
  intro x hx
  simp [Json.nat, numbers] at hx

end Workflow

namespace Store

lemma nextVersion_le {previous : Option Workflow} {w : Workflow} (hw : w.version ≤ maxInteger)
    (hprevious : ∀ old ∈ previous, old.version ≤ maxInteger) :
    nextVersion previous w ≤ maxInteger := by
  cases previous with
  | none => exact max_le hw (by decide)
  | some old =>
      have hold := hprevious old rfl
      unfold nextVersion
      dsimp only
      split_ifs
      · exact Nat.lt_succ_iff.mp (Nat.mod_lt _ (Nat.succ_pos _))
      · exact hold

/-! ## Saves -/

/-- An agent as it was given to be saved, and as it was saved. -/
structure Save where
  given : Agent
  saved : Agent

/-- The number that a save gave, or zero if there was no workflow. -/
def Save.version (x : Save) : Nat := x.saved.workflow.elim 0 Workflow.version

/-- The save under an id that a call was, if it was one and succeeded. -/
def Step.save? (id : String) (e : Step) : Option Save :=
  match e.call, e.answer with
  | .save a, .agents [saved] => if a.id = id then some ⟨a, saved⟩ else none
  | _, _ => none

/-- The successful saves under an id among calls. -/
def saves (s : Store) (id : String) (calls : List Call) : List Save :=
  (s.steps calls).filterMap (Step.save? id)

/-- A save behind one that left the workflow `last`, or none.  Of what was given, only the number
changes.  A workflow that does not differ from what is read of `last` keeps its number, and one
that differs counts one further; without a workflow to compare with, the number that was given
stays, but for zero. -/
structure Save.Follows (last : Option Workflow) (x : Save) : Prop where
  saved : x.saved =
    { x.given with workflow := x.given.workflow.map fun w => w.numbered x.version }
  first : last = none → ∀ w ∈ x.given.workflow, x.version = max w.version 1
  same : ∀ old ∈ last, ∀ w ∈ x.given.workflow, w.structureDiffers old.settled = false →
    x.version = old.version
  changed : ∀ old ∈ last, ∀ w ∈ x.given.workflow, w.structureDiffers old.settled = true →
    x.version = (old.version + 1) % (maxInteger + 1)

/-- Saves in a row, each behind the one before it. -/
def Numbered : Option Workflow → List Save → Prop
  | _, [] => True
  | last, x :: xs => x.Follows last ∧ Numbered x.saved.workflow xs

/-- What is stored under an id is the agent saved last, whose workflow can be read back. -/
structure Holds (s : Store) (id : String) (last : Option Agent) : Prop where
  row : s.agentRow? id = last.map AgentRow.ofAgent
  recoverable : ∀ a ∈ last, ∀ w ∈ a.workflow, w.Recoverable

variable {s s' : Store} {id : String} {last : Option Agent}

/-- The workflow that a save is compared with. -/
lemma Holds.previousWorkflow_eq_ok (hs : s.Holds id last) {a : Agent} (hid : a.id = id)
    {previous : Option Workflow} (h : s.previousWorkflow a = .ok previous) :
    previous = (last.bind Agent.workflow).map Workflow.settled := by
  unfold previousWorkflow at h
  rw [hid, hs.row] at h
  cases last with
  | none =>
      cases h
      rfl
  | some old =>
      simp only [Option.map_some, AgentRow.ofAgent] at h
      split_ifs at h
      cases hworkflow : old.workflow with
      | none =>
          rw [hworkflow] at h
          cases h
          simp [hworkflow]
      | some w =>
          simp only [hworkflow, Option.map_some, kept?,
            Workflow.kept_write (hs.recoverable old rfl w hworkflow)] at h
          split_ifs at h
          · cases h
            simp [hworkflow]
          · cases h

lemma saveAgent_numbered {a saved : Agent} (h : s.saveAgent a = .ok (s', saved)) :
    ∃ previous, s.previousWorkflow a = .ok previous ∧
      saved =
        { a with workflow := a.workflow.map fun w => w.numbered (nextVersion previous w) } := by
  unfold saveAgent at h
  cases hprevious : s.previousWorkflow a with
  | error e =>
      rw [hprevious] at h
      cases h
  | ok previous =>
      rw [hprevious] at h
      cases h
      exact ⟨previous, rfl, rfl⟩

/-- A save with the number that is due. -/
lemma follows_of_nextVersion (last : Option Workflow) (a : Agent) :
    Save.Follows last ⟨a, { a with
      workflow := a.workflow.map fun w =>
        w.numbered (nextVersion (last.map Workflow.settled) w) }⟩ := by
  obtain ⟨aid, user, name, description, workflow⟩ := a
  cases workflow with
  | none =>
      exact ⟨rfl, fun _ w hw => by simp at hw, fun _ _ w hw => by simp at hw,
        fun _ _ w hw => by simp at hw⟩
  | some w =>
      refine ⟨rfl, ?_, ?_, ?_⟩
      · rintro rfl w ⟨⟩
        rfl
      · rintro old ⟨⟩ w ⟨⟩ hsame
        change nextVersion (some old.settled) w = old.version
        exact if_neg (by simp [hsame])
      · rintro old ⟨⟩ w ⟨⟩ hdiffers
        change nextVersion (some old.settled) w = (old.version + 1) % (maxInteger + 1)
        exact if_pos hdiffers

/-- A save under the id follows the last one, and is what is stored then. -/
lemma Holds.save (hs : s.Holds id last) {a saved : Agent} (hid : a.id = id)
    (ha : ∀ w ∈ a.workflow, w.Recoverable) (h : s.saveAgent a = .ok (s', saved)) :
    Save.Follows (last.bind Agent.workflow) ⟨a, saved⟩ ∧ s'.Holds id (some saved) := by
  obtain ⟨rfl, hsaved, -, -⟩ := saveAgent_eq_ok h
  obtain ⟨previous, hprevious, rfl⟩ := saveAgent_numbered h
  obtain rfl := hs.previousWorkflow_eq_ok hid hprevious
  refine ⟨follows_of_nextVersion _ a, ?_, ?_⟩
  · exact (agentRow?_putAgent _ _ _).trans (if_pos hid.symm)
  · rintro b ⟨⟩ w hw
    obtain ⟨given, hgiven, rfl⟩ := Option.map_eq_some_iff.mp hw
    refine (ha given hgiven).numbered
      (nextVersion_le (ha given hgiven).1.version fun old hold => ?_)
    obtain ⟨w, hw, rfl⟩ := Option.map_eq_some_iff.mp hold
    obtain ⟨b, hb, hbw⟩ := Option.bind_eq_some_iff.mp hw
    exact (hs.recoverable b hb w hbw).1.version

/-- Other calls leave what is stored under the id. -/
lemma Holds.of_effect (hs : s.Holds id last) {call : Call} {answer : Answer}
    (he : Effect s call answer s') (hsave : ∀ a, call = .save a → a.id ≠ id)
    (hdelete : ∀ user, call ≠ .delete id user) : s'.Holds id last := by
  refine ⟨?_, hs.recoverable⟩
  cases he with
  | read => exact hs.row
  | @saved a saved hid =>
      have hother : id ≠ (AgentRow.ofAgent saved).id := fun heq =>
        hsave a rfl (hid.symm.trans heq.symm)
      rw [agentRow?_putAgent, if_neg hother, hs.row]
  | @deleted other user =>
      have hother : id ≠ other := by
        rintro rfl
        exact hdelete user rfl
      rw [agentRow?_without, if_neg hother, hs.row]

/-- **One call, given what is stored under the id**: a save under it follows the last one, and
anything else leaves it. -/
theorem perform_holds (h : s.Distinct) (hs : s.Holds id last) {call : Call}
    (hdelete : ∀ user, call ≠ .delete id user)
    (hgiven : ∀ a, call = .save a → a.id = id → ∀ w ∈ a.workflow, w.Recoverable) :
    (∀ x, Step.save? id ⟨s, call, (s.perform call).2, (s.perform call).1⟩ = some x →
      x.Follows (last.bind Agent.workflow) ∧ (s.perform call).1.Holds id (some x.saved)) ∧
    (Step.save? id ⟨s, call, (s.perform call).2, (s.perform call).1⟩ = none →
      (s.perform call).1.Holds id last) := by
  have heffect := perform_effect h call
  by_cases hcall : ∃ a, call = .save a ∧ a.id = id
  · obtain ⟨a, rfl, hid⟩ := hcall
    cases hsave : s.saveAgent a with
    | error e =>
        simp only [perform, hsave, Step.save?]
        exact ⟨by simp, fun _ => hs⟩
    | ok r =>
        obtain ⟨s', saved⟩ := r
        simp only [perform, hsave, Step.save?, hid, if_true]
        refine ⟨?_, by simp⟩
        rintro x ⟨⟩
        exact hs.save hid (hgiven a rfl hid) hsave
  · have hsave : ∀ a, call = .save a → a.id ≠ id := fun a ha hid => hcall ⟨a, ha, hid⟩
    refine ⟨fun x hx => ?_, fun _ => hs.of_effect heffect hsave hdelete⟩
    unfold Step.save? at hx
    split at hx
    · rename_i a saved hsaved _
      rw [if_neg (hsave a hsaved)] at hx
      cases hx
    · cases hx

/-! ## Any number of calls -/

lemma saves_cons (s : Store) (id : String) (c : Call) (cs : List Call) :
    s.saves id (c :: cs) =
      match Step.save? id ⟨s, c, (s.perform c).2, (s.perform c).1⟩ with
      | none => (s.perform c).1.saves id cs
      | some x => x :: (s.perform c).1.saves id cs := by
  rw [saves, steps, List.filterMap_cons]
  cases Step.save? id ⟨s, c, (s.perform c).2, (s.perform c).1⟩ <;> rfl

/-- Saves among any calls are numbered, and the last of them is what is stored. -/
lemma Holds.saves (h : s.Distinct) (hs : s.Holds id last) {calls : List Call}
    (hdelete : ∀ user, Call.delete id user ∉ calls)
    (hgiven : ∀ a, Call.save a ∈ calls → a.id = id → ∀ w ∈ a.workflow, w.Recoverable) :
    Numbered (last.bind Agent.workflow) (s.saves id calls) ∧
      (s.after calls).Holds id (((s.saves id calls).getLast?.map Save.saved).or last) := by
  induction calls generalizing s last with
  | nil => exact ⟨trivial, hs⟩
  | cons c cs ih =>
      have hstep := @perform_holds s id last h hs c
        (fun user heq => hdelete user (heq ▸ List.mem_cons_self))
        fun a heq => hgiven a (heq ▸ List.mem_cons_self)
      have hdistinct := (perform_effect h c).distinct h
      have hdelete' : ∀ user, Call.delete id user ∉ cs := fun user hmem =>
        hdelete user (List.mem_cons_of_mem _ hmem)
      have hgiven' : ∀ a, Call.save a ∈ cs → a.id = id → ∀ w ∈ a.workflow, w.Recoverable :=
        fun a hmem => hgiven a (List.mem_cons_of_mem _ hmem)
      rw [saves_cons]
      cases hsave : Step.save? id ⟨s, c, (s.perform c).2, (s.perform c).1⟩ with
      | none => exact ih hdistinct (hstep.2 hsave) hdelete' hgiven'
      | some x =>
          obtain ⟨hfollows, hholds⟩ := hstep.1 x hsave
          obtain ⟨hnumbered, hlast⟩ := ih hdistinct hholds hdelete' hgiven'
          refine ⟨⟨hfollows, hnumbered⟩, ?_⟩
          dsimp only
          rw [List.getLast?_cons]
          cases hxs : ((s.perform c).1.saves id cs).getLast? with
          | none =>
              rw [hxs] at hlast
              exact hlast
          | some y =>
              rw [hxs] at hlast
              exact hlast

/-- A save behind another one, with a workflow unless the other had none. -/
def Save.KeepsWorkflow (x y : Save) : Prop :=
  x.saved.workflow.isSome = true → y.saved.workflow.isSome = true

/-- The number does not decrease from one save to the next, up to the last number that there is. -/
lemma Save.Follows.version_le {x y : Save} (h : y.Follows x.saved.workflow)
    (hx : x.version < maxInteger) (hkeeps : x.KeepsWorkflow y) : x.version ≤ y.version := by
  cases hold : x.saved.workflow with
  | none => simp [Save.version, hold]
  | some old =>
      have hversion : x.version = old.version := by simp [Save.version, hold]
      have hsome : y.given.workflow.isSome = true := by
        have hsaved := hkeeps (by simp [hold])
        rw [h.saved] at hsaved
        simpa using hsaved
      obtain ⟨w, hw⟩ := Option.isSome_iff_exists.mp hsome
      cases hdiffers : w.structureDiffers old.settled with
      | false => rw [h.same old hold w hw hdiffers, hversion]
      | true =>
          rw [h.changed old hold w hw hdiffers, hversion, Nat.mod_eq_of_lt (by omega)]
          exact Nat.le_succ _

lemma Numbered.isChain {xs : List Save} {previous : Option Workflow} (h : Numbered previous xs)
    (hbound : ∀ x ∈ xs, x.version < maxInteger) (hkeeps : xs.IsChain Save.KeepsWorkflow) :
    xs.IsChain fun x y => x.version ≤ y.version := by
  induction xs generalizing previous with
  | nil => exact .nil
  | cons x xs ih =>
      rw [List.forall_mem_cons] at hbound
      cases xs with
      | nil => exact .singleton _
      | cons y xs =>
          rw [List.isChain_cons_cons] at hkeeps ⊢
          exact ⟨h.2.1.version_le hbound.1 hkeeps.1, ih h.2 hbound.2 hkeeps.2⟩

/-- A stretch of numbered saves is numbered. -/
lemma Numbered.of_stretch {xs ys : List Save} {previous : Option Workflow}
    (h : Numbered previous xs) (hstretch : ys <:+: xs) : ∃ previous', Numbered previous' ys := by
  obtain ⟨before, behind, rfl⟩ := hstretch
  induction before generalizing previous with
  | nil =>
      refine ⟨previous, ?_⟩
      induction ys generalizing previous with
      | nil => trivial
      | cons y ys ih => exact ⟨h.1, ih h.2⟩
  | cons x before ih => exact ih h.2

instance : Trans (fun x y : Save => x.version ≤ y.version)
    (fun x y : Save => x.version ≤ y.version) fun x y : Save => x.version ≤ y.version where
  trans := le_trans

/-- What is read of an agent that is stored. -/
lemma Holds.getAgent {a : Agent} (hs : s.Holds id (some a)) :
    s.getAgent id a.userId =
      if ∀ w ∈ a.workflow, (Workflow.codec.write w).depth ≤ 127 then
        .ok { a with workflow := a.workflow.map Workflow.settled }
      else .error (.json "recursion limit exceeded") := by
  have hid : a.id = id := (agentRow?_eq_some hs.row).2
  have hfound : ((s.agentRow? id).filter fun r => r.userId = a.userId) =
      some (AgentRow.ofAgent a) := by
    rw [hs.row]
    simp [AgentRow.ofAgent]
  unfold Store.getAgent
  rw [hfound]
  obtain ⟨aid, user, name, description, workflow⟩ := a
  cases workflow with
  | none => simp [AgentRow.ofAgent, AgentRow.agent, kept?, Except.map]
  | some w =>
      have hw := Workflow.kept_write (hs.recoverable _ rfl w rfl)
      simp only [AgentRow.ofAgent, Option.map_some, AgentRow.agent, kept?, hw, Option.mem_def,
        Option.some.injEq, forall_eq']
      split_ifs <;> rfl

/-- **The saves of an agent number its workflows one after another**, through any other calls and
as long as the agent is not deleted: each follows the one before it.  So the numbers do not
decrease in any stretch in which no save leaves the workflow out, below the last number; and the
agent is then read with the number that its last save gave, unless its workflow nests too
deeply. -/
theorem saves_numbered (h : s.Distinct) (hnew : s.agentRow? id = none) {calls : List Call}
    (hdelete : ∀ user, Call.delete id user ∉ calls)
    (hgiven : ∀ a, Call.save a ∈ calls → a.id = id → ∀ w ∈ a.workflow, w.Recoverable) :
    Numbered none (s.saves id calls) ∧
      (∀ xs, xs <:+: s.saves id calls → (∀ x ∈ xs, x.version < maxInteger) →
        xs.IsChain Save.KeepsWorkflow → xs.Pairwise fun x y => x.version ≤ y.version) ∧
      ∀ x ∈ (s.saves id calls).getLast?, (s.after calls).getAgent id x.saved.userId =
        if ∀ w ∈ x.saved.workflow, (Workflow.codec.write w).depth ≤ 127 then
          .ok { x.saved with workflow := x.saved.workflow.map Workflow.settled }
        else .error (.json "recursion limit exceeded") := by
  have hs : s.Holds id none := ⟨hnew, by simp⟩
  obtain ⟨hnumbered, hlast⟩ := hs.saves h hdelete hgiven
  refine ⟨hnumbered, fun xs hstretch hbound hkeeps => ?_, fun x hx => ?_⟩
  · obtain ⟨previous, hxs⟩ := hnumbered.of_stretch hstretch
    exact (hxs.isChain hbound hkeeps).pairwise
  · rw [hx] at hlast
    exact hlast.getAgent

/-- A workflow of one block, and an agent of it. -/
def sketch (block : String) (version : Nat) : Workflow :=
  { id := "w", version,
    blocks := [{ id := block, normalizedId := block, config := .variable {} }] }

@[inherit_doc sketch]
def sketched (block : String) (version : Nat) : Agent :=
  { id := "a", userId := "ann", name := "Notes", workflow := some (sketch block version) }

/-- A workflow that was saved under a number of its own is changed, and saved again as it is. -/
theorem saves_numbered_edited :
    let calls : List Call := [.save (sketched "b" 7), .get "a" "ann", .save (sketched "c" 1),
      .save { sketched "d" 1 with id := "other" }, .save (sketched "c" 5)]
    Distinct {} ∧ agentRow? {} "a" = none ∧ (∀ user, Call.delete "a" user ∉ calls) ∧
      (∀ a, Call.save a ∈ calls → a.id = "a" → ∀ w ∈ a.workflow, w.Recoverable) ∧
      Numbered none (saves {} "a" calls) ∧ (saves {} "a" calls).map Save.version = [7, 8, 8] := by
  intro calls
  have hdistinct : Distinct {} := List.nodup_nil
  have hdelete : ∀ user, Call.delete "a" user ∉ calls := by simp [calls]
  have hsketch : ∀ block version, block ≠ "" → version ≤ maxInteger →
      (Workflow.codec.write (sketch block version)).numbers.all (fun n => decide n.Legible) =
        true → ∀ w ∈ (sketched block version).workflow, w.Recoverable := by
    rintro block version hblock hversion hlegible w ⟨⟩
    refine ⟨⟨?_, by simp [sketch], hversion⟩, fun x hx =>
      of_decide_eq_true (List.all_eq_true.mp hlegible _ hx)⟩
    intro b hb
    obtain rfl := List.mem_singleton.mp hb
    exact ⟨by simp [BlockConfig.Proper, VariableConfig.Proper], by simp [maxInteger], by simp,
      fun h => absurd h hblock⟩
  have hgiven : ∀ a, Call.save a ∈ calls → a.id = "a" → ∀ w ∈ a.workflow, w.Recoverable := by
    intro a ha hid
    simp only [calls, List.mem_cons, Call.save.injEq, List.not_mem_nil, or_false, reduceCtorEq,
      false_or] at ha
    rcases ha with rfl | rfl | rfl | rfl
    · exact hsketch _ _ (by decide) (by decide) (by decide +kernel)
    · exact hsketch _ _ (by decide) (by decide) (by decide +kernel)
    · exact absurd hid (by decide)
    · exact hsketch _ _ (by decide) (by decide) (by decide +kernel)
  exact ⟨hdistinct, rfl, hdelete, hgiven, (saves_numbered hdistinct rfl hdelete hgiven).1,
    by decide +kernel⟩

/-- A save without a workflow makes the numbers start again: a workflow that differs from the one
saved last, under number two, is saved under number one. -/
theorem saves_forgotten :
    let calls : List Call := [.save (sketched "b" 1), .save (sketched "c" 1),
      .save { sketched "c" 1 with workflow := none }, .save (sketched "d" 1)]
    (saves {} "a" calls).map Save.version = [1, 2, 0, 1] ∧
      (sketch "d" 1).structureDiffers (sketch "c" 2) = true := by
  decide +kernel

end Store

end Blockflow
