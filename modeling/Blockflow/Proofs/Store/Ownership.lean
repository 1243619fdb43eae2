import Blockflow.Store.Basic
import Mathlib.Data.List.Nodup
import Mathlib.Tactic.Common

/-!
# Agents belong to those who saved them first

Users save, read, list and delete agents in any order and under any ids.  What a call may change
is said once, by the kind of the call; everything about ownership follows by cases on that, for one
call and then for any number of them.

* `Store.Call`, `Store.Answer`, `Store.perform` — calls and what they answer.
* **`Store.perform_effect`** — what a call may change.
* `Store.Step.Confined` — a call that keeps to its user's agents.
* **`Store.calls_confined`** — every call does, and an owner stays until he deletes the agent.
-/

namespace Blockflow.Store

/-! ## Calls -/

/-- A call about agents, made for a user. -/
inductive Call where
  | save (agent : Agent)
  | get (id user : String)
  | list (user : String)
  | delete (id user : String)

/-- Whom a call is made for. -/
def Call.user : Call → String
  | .save a => a.userId
  | .get _ user | .list user | .delete _ user => user

/-- What a call answers. -/
inductive Answer where
  | agents (agents : List Agent)
  | deleted (found : Bool)
  | failed (error : Error)

/-- Whether nothing came of the call. -/
def Answer.isRefusal : Answer → Bool
  | .agents _ => false
  | .deleted found => !found
  | .failed _ => true

/-- The agents in an answer. -/
def Answer.returned : Answer → List Agent
  | .agents found => found
  | _ => []

/-- A call, carried out. -/
def perform (s : Store) : Call → Store × Answer
  | .save a =>
    match s.saveAgent a with
    | .ok (s', saved) => (s', .agents [saved])
    | .error e => (s, .failed e)
  | .get id user =>
    match s.getAgent id user with
    | .ok a => (s, .agents [a])
    | .error e => (s, .failed e)
  | .list user =>
    match s.listAgents user with
    | .ok agents => (s, .agents agents)
    | .error e => (s, .failed e)
  | .delete id user => ((s.deleteAgent id user).1, .deleted (s.deleteAgent id user).2)

/-- The store after calls. -/
def after (s : Store) (calls : List Call) : Store := calls.foldl (fun s c => (s.perform c).1) s

/-! ## What is stored under an id -/

/-- The owner of the agent stored under an id. -/
def owner? (s : Store) (id : String) : Option String := (s.agentRow? id).map AgentRow.userId

/-- The runs of an agent. -/
def executionsOf (s : Store) (id : String) : List ExecutionRow :=
  s.executions.filter fun r => r.agentId = id

/-- No two agents are stored under one id. -/
def Distinct (s : Store) : Prop := (s.agents.map AgentRow.id).Nodup

variable {s : Store} {row : AgentRow} {id user : String}

lemma agentRow?_eq_some (h : s.agentRow? id = some row) : row ∈ s.agents ∧ row.id = id :=
  ⟨List.mem_of_find?_eq_some h, by simpa using List.find?_some h⟩

/-- Where no two items have one key, an item is found under its key. -/
lemma find?_of_nodup {α β : Type} [DecidableEq β] {key : α → β} {xs : List α} {x : α}
    (h : (xs.map key).Nodup) (hx : x ∈ xs) :
    xs.find? (fun y => decide (key y = key x)) = some x := by
  induction xs with
  | nil => cases hx
  | cons y xs ih =>
      rw [List.map_cons, List.nodup_cons] at h
      rcases List.mem_cons.mp hx with rfl | hx
      · simp
      · have hne : key y ≠ key x := fun heq => h.1 (heq ▸ List.mem_map_of_mem hx)
        rw [List.find?_cons_of_neg (by simpa using hne)]
        exact ih h.2 hx

/-- A stored agent is found under its id. -/
lemma Distinct.agentRow?_of_mem (h : s.Distinct) (hrow : row ∈ s.agents) :
    s.agentRow? row.id = some row :=
  find?_of_nodup h hrow

lemma owner?_eq_some_iff : s.owner? id = some user ↔
    ∃ row, s.agentRow? id = some row ∧ row.userId = user := by
  simp [owner?]

/-! ## Writing and deleting an agent -/

/-- What is found after an agent was put into the store. -/
lemma agentRow?_putAgent (s : Store) (row : AgentRow) (id : String) :
    (s.putAgent row).agentRow? id = if id = row.id then some row else s.agentRow? id := by
  unfold putAgent
  by_cases hknown : (s.agentRow? row.id).isSome
  · rw [if_pos hknown]
    have hsame : (fun r => decide (r.id = id)) ∘ (fun r => if r.id = row.id then row else r) =
        fun r : AgentRow => decide (r.id = id) := by
      funext r
      by_cases hr : r.id = row.id <;> simp [hr]
    simp only [agentRow?, List.find?_map, hsame]
    obtain ⟨r, hr⟩ := Option.isSome_iff_exists.mp hknown
    by_cases hid : id = row.id
    · subst hid
      have hfind : s.agents.find? (fun r => decide (r.id = row.id)) = some r := hr
      simp [hfind, (agentRow?_eq_some hr).2]
    · rw [if_neg hid]
      cases hfind : s.agents.find? fun r => decide (r.id = id) with
      | none => rfl
      | some r =>
          have hne : r.id ≠ row.id := by
            have hfound : s.agentRow? id = some r := hfind
            rw [(agentRow?_eq_some hfound).2]
            exact hid
          simp [hne]
  · rw [if_neg hknown]
    simp only [Bool.not_eq_true, Option.isSome_eq_false_iff, Option.isNone_iff_eq_none] at hknown
    simp only [agentRow?, List.find?_append]
    by_cases hid : id = row.id
    · subst hid
      have hfind : s.agents.find? (fun r => decide (r.id = row.id)) = none := hknown
      simp [hfind]
    · simp [hid, Ne.symm hid]

/-- Putting an agent into the store keeps the ids apart. -/
lemma Distinct.putAgent (h : s.Distinct) (row : AgentRow) : (s.putAgent row).Distinct := by
  unfold Store.putAgent
  by_cases hknown : (s.agentRow? row.id).isSome
  · rw [if_pos hknown]
    have hids : (s.agents.map fun r => if r.id = row.id then row else r).map AgentRow.id =
        s.agents.map AgentRow.id := by
      rw [List.map_map]
      refine List.map_congr_left fun r _ => ?_
      by_cases hr : r.id = row.id <;> simp [hr]
    unfold Distinct
    rwa [hids]
  · rw [if_neg hknown]
    have hfresh : row.id ∉ s.agents.map AgentRow.id := by
      intro hmem
      obtain ⟨r, hr, hid⟩ := List.mem_map.mp hmem
      rw [← hid, h.agentRow?_of_mem hr] at hknown
      exact hknown rfl
    unfold Distinct
    rw [List.map_append, List.map_singleton]
    exact List.Nodup.append h (List.nodup_singleton _) (by simpa using hfresh)

lemma executions_putAgent (s : Store) (row : AgentRow) :
    (s.putAgent row).executions = s.executions := by
  unfold Store.putAgent
  split_ifs <;> rfl

/-- The store without an agent and its runs. -/
def without (s : Store) (id : String) : Store where
  agents := s.agents.filter fun r => r.id ≠ id
  executions := s.executions.filter fun r => r.agentId ≠ id

/-- A user deletes only agents of his own. -/
lemma deleteAgent_eq (h : s.Distinct) (id user : String) :
    s.deleteAgent id user =
      if s.owner? id = some user then (s.without id, true) else (s, false) := by
  have howner : (s.agents.any fun r => r.id = id && r.userId = user) = true ↔
      s.owner? id = some user := by
    rw [owner?_eq_some_iff, List.any_eq_true]
    constructor
    · rintro ⟨row, hrow, hmatch⟩
      simp only [Bool.and_eq_true, decide_eq_true_eq] at hmatch
      exact ⟨row, hmatch.1 ▸ h.agentRow?_of_mem hrow, hmatch.2⟩
    · rintro ⟨row, hrow, huser⟩
      obtain ⟨hmem, hid⟩ := agentRow?_eq_some hrow
      exact ⟨row, hmem, by simp [hid, huser]⟩
  unfold deleteAgent
  by_cases hfound : s.owner? id = some user
  · rw [if_pos (howner.mpr hfound), if_pos hfound, without]
    -- Under distinct ids, the rows of the id are the one row of its owner.
    obtain ⟨row, hrow, huser⟩ := owner?_eq_some_iff.mp hfound
    have hfilter : (s.agents.filter fun r => !(r.id = id && r.userId = user)) =
        s.agents.filter fun r => r.id ≠ id := by
      refine List.filter_congr fun r hr => ?_
      by_cases hid : r.id = id
      · have hsame : r = row := by
          have hr' := h.agentRow?_of_mem hr
          rw [hid, hrow] at hr'
          exact (Option.some.inj hr').symm
        simp [hsame, huser]
      · simp [hid]
    rw [hfilter]
  · rw [if_neg (fun hany => hfound (howner.mp hany)), if_neg hfound]

lemma agentRow?_without (s : Store) (id other : String) :
    (s.without id).agentRow? other = if other = id then none else s.agentRow? other := by
  simp only [agentRow?, without, List.find?_filter]
  by_cases hother : other = id
  · subst hother
    rw [if_pos rfl, List.find?_eq_none]
    simp
  · rw [if_neg hother]
    congr 1
    funext r
    by_cases hr : r.id = other
    · simp [hr, hother]
    · simp [hr]

lemma Distinct.without (h : s.Distinct) (id : String) : (s.without id).Distinct :=
  h.sublist (List.filter_sublist.map _)

/-! ## What a call may change -/

/-- What a call made of a store, with its answer. -/
inductive Effect (s : Store) : Call → Answer → Store → Prop where
  | read {call : Call} {answer : Answer}
      (h : ∀ a ∈ answer.returned, s.owner? a.id = some call.user ∧ a.userId = call.user) :
      Effect s call answer s
  | saved {a saved : Agent} (hid : saved.id = a.id) (huser : saved.userId = a.userId)
      (howner : ∀ user, s.owner? a.id = some user → user = a.userId) :
      Effect s (.save a) (.agents [saved]) (s.putAgent (.ofAgent saved))
  | deleted {id user : String} (h : s.owner? id = some user) :
      Effect s (.delete id user) (.deleted true) (s.without id)

/-- The agent of a row is the one that the row is of. -/
lemma agent_eq_ok {a : Agent} (h : row.agent = .ok a) : a.id = row.id ∧ a.userId = row.userId := by
  unfold AgentRow.agent at h
  cases hworkflow : kept? Workflow.codec row.workflow with
  | error e =>
      rw [hworkflow] at h
      cases h
  | ok w =>
      rw [hworkflow] at h
      cases h
      exact ⟨rfl, rfl⟩

lemma exists_of_mapM {α β ε : Type} {f : α → Except ε β} {xs : List α} {ys : List β}
    (h : xs.mapM f = .ok ys) : ∀ y ∈ ys, ∃ x ∈ xs, f x = .ok y := by
  induction xs generalizing ys with
  | nil =>
      cases h
      simp
  | cons x xs ih =>
      rw [List.mapM_cons] at h
      cases hx : f x with
      | error e =>
          rw [hx] at h
          cases h
      | ok y =>
          rw [hx] at h
          cases hxs : xs.mapM f with
          | error e =>
              rw [hxs] at h
              cases h
          | ok ys' =>
              rw [hxs] at h
              cases h
              rintro z (_ | ⟨_, hz⟩)
              · exact ⟨x, List.mem_cons_self, hx⟩
              · obtain ⟨x', hx', hf⟩ := ih hxs z hz
                exact ⟨x', List.mem_cons_of_mem _ hx', hf⟩

lemma getAgent_eq_ok {a : Agent} (h : s.getAgent id user = .ok a) :
    s.owner? a.id = some user ∧ a.userId = user := by
  unfold getAgent at h
  split at h
  · rename_i r hr
    obtain ⟨hrow, huser⟩ := Option.filter_eq_some_iff.mp hr
    obtain ⟨hid, huser'⟩ := agent_eq_ok h
    simp only [decide_eq_true_eq] at huser
    refine ⟨owner?_eq_some_iff.mpr ⟨r, ?_, huser⟩, huser'.trans huser⟩
    rw [hid, (agentRow?_eq_some hrow).2, hrow]
  · cases h

lemma Distinct.listAgents_eq_ok (h : s.Distinct) {found : List Agent}
    (hlist : s.listAgents user = .ok found) :
    ∀ a ∈ found, s.owner? a.id = some user ∧ a.userId = user := by
  intro a ha
  obtain ⟨r, hr, hagent⟩ := exists_of_mapM hlist a ha
  rw [List.mem_mergeSort, List.mem_filter, decide_eq_true_eq] at hr
  obtain ⟨hid, huser⟩ := agent_eq_ok hagent
  refine ⟨owner?_eq_some_iff.mpr ⟨r, ?_, hr.2⟩, huser.trans hr.2⟩
  rw [hid, h.agentRow?_of_mem hr.1]

lemma saveAgent_eq_ok {a saved : Agent} {s' : Store} (h : s.saveAgent a = .ok (s', saved)) :
    s' = s.putAgent (.ofAgent saved) ∧ saved.id = a.id ∧ saved.userId = a.userId ∧
      ∀ user, s.owner? a.id = some user → user = a.userId := by
  unfold saveAgent at h
  cases hprevious : s.previousWorkflow a with
  | error e =>
      rw [hprevious] at h
      cases h
  | ok previous =>
      rw [hprevious] at h
      cases h
      refine ⟨rfl, rfl, rfl, fun user howner => ?_⟩
      obtain ⟨r, hr, rfl⟩ := owner?_eq_some_iff.mp howner
      unfold previousWorkflow at hprevious
      rw [hr] at hprevious
      by_contra hne
      simp [hne] at hprevious

/-- **What a call may change.** -/
theorem perform_effect (h : s.Distinct) (call : Call) :
    Effect s call (s.perform call).2 (s.perform call).1 := by
  cases call with
  | save a =>
      rw [perform]
      cases hsave : s.saveAgent a with
      | error e => exact .read (by simp [Answer.returned])
      | ok r =>
          obtain ⟨s', saved⟩ := r
          obtain ⟨rfl, hid, huser, howner⟩ := saveAgent_eq_ok hsave
          exact .saved hid huser howner
  | get id user =>
      rw [perform]
      cases hget : s.getAgent id user with
      | error e => exact .read (by simp [Answer.returned])
      | ok a =>
          refine .read fun b hb => ?_
          obtain rfl : b = a := by simpa [Answer.returned] using hb
          exact getAgent_eq_ok hget
  | list user =>
      rw [perform]
      cases hlist : s.listAgents user with
      | error e => exact .read (by simp [Answer.returned])
      | ok found => exact .read (h.listAgents_eq_ok hlist)
  | delete id user =>
      rw [perform, deleteAgent_eq h]
      split_ifs with howner
      · exact .deleted howner
      · exact .read (by simp [Answer.returned])

/-- A call keeps the ids apart. -/
lemma Effect.distinct {call : Call} {answer : Answer} {s' : Store} (h : s.Distinct)
    (he : Effect s call answer s') : s'.Distinct := by
  cases he with
  | read => exact h
  | saved => exact h.putAgent _
  | deleted => exact h.without _

/-! ## Calls that keep to their user's agents -/

/-- A call with its answer, and the store before and after it. -/
structure Step where
  before : Store
  call : Call
  answer : Answer
  after : Store

/-- A call that keeps to its user's agents: it returns only these, takes an agent from nobody but
an owner who deletes it, leaves the agents of other users and their runs as they are, and leaves
everything as it is when it refuses. -/
structure Step.Confined (e : Step) : Prop where
  returned : ∀ a ∈ e.answer.returned, e.after.owner? a.id = some e.call.user ∧
    a.userId = e.call.user
  owner : ∀ id user, e.before.owner? id = some user →
    e.after.owner? id = some user ∨ e.call = .delete id user
  others : ∀ id user, e.before.owner? id = some user → user ≠ e.call.user →
    e.after.agentRow? id = e.before.agentRow? id ∧
      e.after.executionsOf id = e.before.executionsOf id
  added : ∀ id row, e.after.agentRow? id = some row →
    e.before.agentRow? id = some row ∨ row.userId = e.call.user
  refused : e.answer.isRefusal = true → e.after = e.before

lemma owner?_putAgent (s : Store) (row : AgentRow) (id : String) :
    (s.putAgent row).owner? id = if id = row.id then some row.userId else s.owner? id := by
  unfold owner?
  rw [agentRow?_putAgent]
  split_ifs <;> rfl

lemma owner?_without (s : Store) (id other : String) :
    (s.without id).owner? other = if other = id then none else s.owner? other := by
  unfold owner?
  rw [agentRow?_without]
  split_ifs <;> rfl

lemma executionsOf_without {other : String} (h : other ≠ id) :
    (s.without id).executionsOf other = s.executionsOf other := by
  simp only [executionsOf, without, List.filter_filter]
  refine List.filter_congr fun r _ => ?_
  by_cases hr : r.agentId = other <;> simp [hr, h]

/-- A call that changes nothing. -/
lemma confined_read {call : Call} {answer : Answer}
    (h : ∀ a ∈ answer.returned, s.owner? a.id = some call.user ∧ a.userId = call.user) :
    Step.Confined ⟨s, call, answer, s⟩ where
  returned := h
  owner _ _ howner := .inl howner
  others _ _ _ _ := ⟨rfl, rfl⟩
  added _ _ hrow := .inl hrow
  refused _ := rfl

/-- An agent that nobody else has is saved. -/
lemma confined_saved {a saved : Agent} (hid : saved.id = a.id) (huser : saved.userId = a.userId)
    (howner : ∀ user, s.owner? a.id = some user → user = a.userId) :
    Step.Confined ⟨s, .save a, .agents [saved], s.putAgent (.ofAgent saved)⟩ := by
  have hrow : (AgentRow.ofAgent saved).id = a.id := hid
  refine ⟨fun b hb => ?_, fun id user hbefore => ?_, fun id user hbefore hne => ?_,
    fun id row hafter => ?_, nofun⟩
  · obtain rfl : b = saved := by simpa [Answer.returned] using hb
    refine ⟨?_, huser⟩
    dsimp only [Call.user]
    rw [owner?_putAgent, hrow, if_pos hid]
    exact congrArg some huser
  · dsimp only at hbefore ⊢
    rw [owner?_putAgent, hrow]
    split_ifs with heq
    · subst heq
      exact .inl (congrArg some (huser.trans (howner user hbefore).symm))
    · exact .inl hbefore
  · dsimp only [Call.user] at hbefore hne ⊢
    have hother : id ≠ a.id := by
      rintro rfl
      exact hne (howner user hbefore)
    rw [agentRow?_putAgent, hrow, if_neg hother]
    exact ⟨rfl, congrArg (List.filter _) (executions_putAgent s _)⟩
  · dsimp only [Call.user] at hafter ⊢
    rw [agentRow?_putAgent] at hafter
    split_ifs at hafter
    · obtain rfl := Option.some.inj hafter
      exact .inr huser
    · exact .inl hafter

/-- An owner deletes an agent. -/
lemma confined_deleted {id user : String} (h : s.owner? id = some user) :
    Step.Confined ⟨s, .delete id user, .deleted true, s.without id⟩ := by
  refine ⟨by simp [Answer.returned], fun other user' hbefore => ?_,
    fun other user' hbefore hne => ?_, fun other row hafter => ?_, nofun⟩
  · dsimp only at hbefore ⊢
    rw [owner?_without]
    split_ifs with heq
    · subst heq
      rw [h] at hbefore
      exact .inr (by rw [Option.some.inj hbefore])
    · exact .inl hbefore
  · dsimp only [Call.user] at hbefore hne ⊢
    have hother : other ≠ id := by
      rintro rfl
      rw [h] at hbefore
      exact hne (Option.some.inj hbefore).symm
    rw [agentRow?_without, if_neg hother]
    exact ⟨rfl, executionsOf_without hother⟩
  · dsimp only at hafter ⊢
    rw [agentRow?_without] at hafter
    split_ifs at hafter
    exact .inl hafter

/-- **What a call may change keeps to its user's agents.** -/
theorem Effect.confined {call : Call} {answer : Answer} {s' : Store}
    (he : Effect s call answer s') : Step.Confined ⟨s, call, answer, s'⟩ := by
  cases he with
  | read h => exact confined_read h
  | saved hid huser howner => exact confined_saved hid huser howner
  | deleted h => exact confined_deleted h

/-! ## Any number of calls -/

/-- Calls in a row, each with its answer and the stores before and after it. -/
def steps (s : Store) : List Call → List Step
  | [] => []
  | c :: cs => ⟨s, c, (s.perform c).2, (s.perform c).1⟩ :: steps (s.perform c).1 cs

/-- **Calls keep to the agents of the users they are made for**, and an agent has its owner until
the owner deletes it. -/
theorem calls_confined (h : s.Distinct) (calls : List Call) :
    (∀ e ∈ s.steps calls, e.Confined) ∧
      ∀ id user, s.owner? id = some user → Call.delete id user ∉ calls →
        (s.after calls).owner? id = some user := by
  induction calls generalizing s with
  | nil => exact ⟨by simp [steps], fun _ _ howner _ => howner⟩
  | cons c cs ih =>
      have heffect := perform_effect h c
      have hconfined := heffect.confined
      obtain ⟨hsteps, howners⟩ := ih (heffect.distinct h)
      refine ⟨List.forall_mem_cons.mpr ⟨hconfined, hsteps⟩, fun id user howner hdelete => ?_⟩
      rw [List.mem_cons, not_or] at hdelete
      rcases hconfined.owner id user howner with hkept | hcall
      · exact howners id user hkept hdelete.2
      · exact absurd hcall.symm hdelete.1

/-- Ann has an agent, and Bob tries to get, to replace and to delete it. -/
theorem calls_confined_intruder :
    let start : Store := { agents := [⟨"a", "ann", "Notes", "", none⟩] }
    let calls : List Call :=
      [.get "a" "bob", .save { id := "a", userId := "bob", name := "Mine" }, .delete "a" "bob",
        .save { id := "b", userId := "bob", name := "Mine" }, .list "ann", .delete "b" "bob"]
    (∀ e ∈ start.steps calls, e.Confined) ∧ (start.after calls).owner? "a" = some "ann" := by
  intro start calls
  have hdistinct : start.Distinct := List.nodup_singleton "a"
  obtain ⟨hsteps, howners⟩ := calls_confined hdistinct calls
  exact ⟨hsteps, howners "a" "ann" rfl (by simp [calls])⟩

end Blockflow.Store
