import Blockflow.Proofs.Run.Sound
import Blockflow.Proofs.Usage

/-!
# Running blocks and the ledger of a run

A block runs once: it comes to run when it is started, and once it has stopped running it never runs
again.  What a block has cost is counted when its end is written down; until then the run owes it.

* `started_subset`, `mem_running_of_effect`, `grows_of_effect` — what an event does to the blocks
  that run.
* `Run.ledger`, **`ledger_of_effect`** — what is counted and what is owed changes only when a block
  returns.
-/

namespace Blockflow

/-- Whether an event leaves every block at its work. -/
def RunEvent.isQuiet : RunEvent → Bool
  | .returns _ _ | .loses _ => false
  | .joins _ | .proceeds | .cancels | .ticks _ => true

namespace Run

variable {s : RunSetup} {r r' : Run} {event : RunEvent} {i j : Nat} {e : BlockEnd}

/-! ## Running blocks -/

lemma started_subset (heffect : Effect s r event r') : r.started ⊆ r'.started := by
  cases heffect with
  | idle | returned | completed | counted | lost | cancelled | ticked => exact List.Subset.refl _
  | failed =>
      rw [started_fail]
      exact List.Subset.refl _
  | started | released => exact List.subset_append_left _ _

/-- A pending block was not started. -/
lemma Sound.not_mem_started (h : Sound s r) (hpending : r.status i = .pending) :
    i ∉ r.started := by
  rw [h.started, hpending]
  exact Bool.false_ne_true

lemma Sound.mem_started (h : Sound s r) (hi : i ∈ r.running) : i ∈ r.started := by
  rw [h.started, h.mem_running hi]
  rfl

/-- **A block that comes to run was not started before.** -/
lemma mem_running_of_effect (h : Sound s r) (heffect : Effect s r event r')
    (hi : i ∈ r'.running) : i ∈ r.running ∨ i ∉ r.started := by
  cases heffect with
  | idle | completed | counted | cancelled | ticked => exact .inl hi
  | failed =>
      rw [running_fail] at hi
      exact .inl hi
  | returned hj | lost hj => exact .inl ((h.vacate_perm hj).subset (List.mem_cons_of_mem _ hi))
  | started hchores =>
      rcases List.mem_append.mp hi with hi | hi
      · exact .inl hi
      · obtain rfl := List.mem_singleton.mp hi
        exact .inr (h.not_mem_started (h.to_start _ (hchores ▸ List.mem_cons_self)).2)
  | released hchores _ hpending =>
      rcases List.mem_append.mp hi with hi | hi
      · exact .inl hi
      · obtain rfl := List.mem_singleton.mp hi
        exact .inr (h.not_mem_started ((status_counted _ _).symm.trans hpending))

/-- A block that returns or is lost does not run any more. -/
lemma Sound.not_mem_vacate (h : Sound s r) (hi : i ∈ r.running) : i ∉ vacate r.running i := by
  have hnodup := (h.vacate_perm hi).nodup_iff.mpr h.running_nodup
  exact (List.nodup_cons.mp hnodup).1

/-- **What a quiet event starts comes to run**, and was not started before. -/
lemma grows_of_effect (h : Sound s r) (heffect : Effect s r event r')
    (hquiet : event.isQuiet = true) :
    ∃ fresh, r'.started = r.started ++ fresh ∧ r'.running = r.running ++ fresh ∧
      (∀ i ∈ fresh, i ∉ r.started) ∧ fresh.Nodup := by
  have hone : ∀ {i : Nat}, r.status i = .pending →
      (∀ j ∈ [i], j ∉ r.started) ∧ [i].Nodup := by
    intro i hpending
    refine ⟨fun j hj => ?_, List.nodup_singleton i⟩
    rw [List.mem_singleton.mp hj]
    exact h.not_mem_started hpending
  cases heffect with
  | idle | completed | counted | cancelled | ticked =>
      exact ⟨[], (List.append_nil _).symm, (List.append_nil _).symm, nofun, List.nodup_nil⟩
  | failed =>
      rw [running_fail, started_fail]
      exact ⟨[], (List.append_nil _).symm, (List.append_nil _).symm, nofun, List.nodup_nil⟩
  | @started i rest hchores =>
      exact ⟨[i], rfl, rfl, hone (h.to_start i (hchores ▸ List.mem_cons_self)).2⟩
  | @released i rest hchores _ hpending =>
      exact ⟨[i], rfl, rfl, hone ((status_counted _ _).symm.trans hpending)⟩
  | returned | lost => cases hquiet

lemma started_returns : (step s r (.returns i e)).started = r.started := by
  rw [step]
  split_ifs <;> rfl

/-- A block that returns leaves the others running. -/
lemma Sound.mem_running_returns (h : Sound s r) (hj : j ∈ r.running) (hji : j ≠ i) :
    j ∈ (step s r (.returns i e)).running := by
  rw [step]
  split_ifs with hi
  · have hmem := (h.vacate_perm (by simpa using hi)).mem_iff.mpr hj
    exact (List.mem_cons.mp hmem).resolve_left hji
  · exact hj

/-! ## The ledger -/

/-- What blocks have cost that returned, before their ends are written down. -/
def owed (r : Run) : TokenUsage := (r.returned.map fun x => x.2.usage).sum

/-- What is counted and what is owed. -/
def ledger (r : Run) : TokenUsage := r.usage + r.owed

lemma sum_usage_filter {l : List (Nat × BlockEnd)} (hnodup : (l.map Prod.fst).Nodup) {e : BlockEnd}
    (hmem : (i, e) ∈ l) :
    (l.map fun x => x.2.usage).sum =
      e.usage + ((l.filter fun x => x.1 ≠ i).map fun x => x.2.usage).sum := by
  induction l with
  | nil => cases hmem
  | cons x l ih =>
      rw [List.map_cons, List.nodup_cons] at hnodup
      obtain ⟨hx, hl⟩ := hnodup
      rcases List.mem_cons.mp hmem with rfl | hmem
      · have hrest : l.filter (fun x => x.1 ≠ i) = l := by
          refine List.filter_eq_self.mpr fun y hy => ?_
          have hne : y.1 ≠ i := fun heq => hx (List.mem_map.mpr ⟨y, hy, heq⟩)
          simpa using hne
        rw [List.filter_cons_of_neg (by simp), hrest, List.map_cons, List.sum_cons]
      · have hne : x.1 ≠ i := fun heq => hx (List.mem_map.mpr ⟨(i, e), hmem, heq.symm⟩)
        rw [List.filter_cons_of_pos (by simpa using hne), List.map_cons, List.map_cons,
          List.sum_cons, List.sum_cons, ih hl hmem, add_left_comm]

/-- What a run owes to a block that returned is counted when its end is written down. -/
lemma ledger_collected (h : Sound s r) {e : BlockEnd} (hmem : (i, e) ∈ r.returned) :
    (r.collected s i e).ledger = r.ledger := by
  have hnodup : (r.returned.map Prod.fst).Nodup := (List.nodup_append.mp h.busy_nodup).2.1
  rw [ledger, ledger, owed, owed, sum_usage_filter hnodup hmem, ← add_assoc]
  rfl

lemma ledger_fail (e : Error) : (fail s r i e).ledger = r.ledger := by
  rw [fail_books]
  rfl

/-- A block that returns adds what it has cost. -/
lemma ledger_returns (hi : i ∈ r.running) (e : BlockEnd) :
    (step s r (.returns i e)).ledger = r.ledger + (e.under r.cancelled).usage := by
  have hstep : step s r (.returns i e) =
      { r with
        running := vacate r.running i
        returned := r.returned ++ [(i, e.under r.cancelled)] } := by
    rw [step, if_pos (by simpa using hi)]
  rw [hstep, ledger, owed, List.map_append, List.sum_append, List.map_singleton,
    List.sum_singleton, ← add_assoc]
  rfl

/-- **What is counted and what is owed changes only when a block returns.** -/
theorem ledger_of_effect (h : Sound s r) (heffect : Effect s r event r')
    (hevent : ∀ i e, event ≠ .returns i e) : r'.ledger = r.ledger := by
  cases heffect with
  | idle | started | counted | released | lost | cancelled | ticked => rfl
  | returned => exact absurd rfl (hevent _ _)
  | completed _ hmem => exact ledger_collected h hmem
  | failed _ hmem => rw [ledger_fail, ledger_collected h hmem]

/-- A run in which nothing is left to do owes nothing. -/
lemma ledger_of_isDrained (h : r.isDrained) : r.ledger = r.usage := by
  have hreturned : r.returned = [] := by
    rw [isDrained, Bool.and_eq_true, List.isEmpty_iff] at h
    exact h.2
  rw [ledger, owed, hreturned]
  exact add_zero _

end Run

end Blockflow
