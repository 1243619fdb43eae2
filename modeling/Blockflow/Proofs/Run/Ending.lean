import Blockflow.Proofs.Run.Sound
import Mathlib.Algebra.BigOperators.Group.Finset.Basic
import Mathlib.Algebra.Order.BigOperators.Group.Finset

/-!
# Runs come to their end

Every block is started at most once and returns at most once, and each of its connections is told
once that it completed.  So what is left to do can be counted, and it only gets less.

* `Run.remaining` — what is left to do.
* **`remaining_lt`** — whatever can happen, other than a cancellation or the passing of time,
  takes something off it.
* `RunEvent.isWork`, `exists_enabled` — while a run is not drained, something can happen.
* `Run.Live` — a run in which nothing is cancelled or lost: what runs is at work, and what is
  pending waits for something.
* **`Live.exists_ahead`**, `Live.isTerminal` — what is pending waits for a block that may still
  complete, so when such a run is drained, no block is left over.
-/

namespace Blockflow

/-- Whether an event is a step of the work, other than a cancellation or the passing of time. -/
def RunEvent.isWork : RunEvent → Bool
  | .returns _ _ | .joins _ | .proceeds | .loses _ => true
  | .cancels | .ticks _ => false

namespace Run

variable {s : RunSetup} {r r' : Run} {i j : Nat}

/-- What is left to do for a block in a state: starting, ending and telling the blocks behind. -/
def effort (s : RunSetup) (i : Nat) : BlockStatus → Nat
  | .pending => (s.plan.targets i).length + 2
  | .running => (s.plan.targets i).length + 1
  | .completed | .failed | .skipped => 0

/-- What is left to do for all blocks. -/
def totalEffort (s : RunSetup) (r : Run) : Nat :=
  ∑ i ∈ Finset.range s.size, effort s i (r.status i)

/-- **What is left to do.** -/
def remaining (s : RunSetup) (r : Run) : Nat :=
  r.totalEffort s + r.running.length + r.chores.length

lemma totalEffort_congr (h : ∀ j, r'.status j = r.status j) :
    r'.totalEffort s = r.totalEffort s :=
  Finset.sum_congr rfl fun j _ => by rw [h j]

/-- When one block moves on and no other one falls back, the effort for that block is saved. -/
lemma totalEffort_le (r r' : Run) (hi : i < s.size)
    (h : ∀ j, j ≠ i → effort s j (r'.status j) ≤ effort s j (r.status j)) :
    r'.totalEffort s + effort s i (r.status i) ≤ r.totalEffort s + effort s i (r'.status i) := by
  have hmem : i ∈ Finset.range s.size := Finset.mem_range.mpr hi
  have hle : ∑ j ∈ (Finset.range s.size).erase i, effort s j (r'.status j) ≤
      ∑ j ∈ (Finset.range s.size).erase i, effort s j (r.status j) :=
    Finset.sum_le_sum fun j hj => h j (Finset.ne_of_mem_erase hj)
  rw [totalEffort, totalEffort, ← Finset.add_sum_erase _ _ hmem, ← Finset.add_sum_erase _ _ hmem]
  omega

lemma totalEffort_start (hi : i < s.size) (hsize : r.cells.length = s.size)
    (hpending : r.status i = .pending) :
    (start s r i).totalEffort s + 1 ≤ r.totalEffort s := by
  have hself : (start s r i).status i = .running :=
    status_start_self (by rw [hsize]; exact hi)
  have hle := totalEffort_le r (start s r i) hi fun j hj => by rw [status_start_of_ne hj]
  rw [hself, hpending] at hle
  simp only [effort] at hle
  omega

lemma length_vacate (h : Sound s r) (hi : i ∈ r.running) :
    (vacate r.running i).length + 1 = r.running.length := by
  rw [← (h.vacate_perm hi).length_eq, List.length_cons]

/-- A chore that is taken from the others. -/
lemma remaining_tail {c : Chore} {rest : List Chore} (hchores : r.chores = c :: rest) :
    ({ r with chores := rest } : Run).remaining s + 1 = r.remaining s := by
  rw [remaining, remaining, hchores, List.length_cons]
  rfl

lemma remaining_counted (rest : List Chore) :
    (r.counted i rest).remaining s = ({ r with chores := rest } : Run).remaining s := by
  have hsame : (r.counted i rest).totalEffort s = r.totalEffort s :=
    totalEffort_congr (status_counted rest)
  rw [remaining, hsame]
  rfl

/-- What a start takes off the effort, the block that runs makes up for. -/
lemma remaining_start (hi : i < s.size) (hsize : r.cells.length = s.size)
    (hpending : r.status i = .pending) : (start s r i).remaining s ≤ r.remaining s := by
  have hle := totalEffort_start hi hsize hpending
  show (start s r i).totalEffort s + (r.running ++ [i]).length + r.chores.length ≤ r.remaining s
  rw [remaining, List.length_append, List.length_singleton]
  omega

lemma remaining_collected (e : BlockEnd) : (r.collected s i e).remaining s = r.remaining s := by
  have hsame : (r.collected s i e).totalEffort s = r.totalEffort s :=
    totalEffort_congr (status_collected e)
  rw [remaining, hsame]
  rfl

/-- Completing a block leaves the blocks behind it to be told, and that it did was counted. -/
lemma remaining_complete (hi : i < s.size) (hlt : i < r.cells.length)
    (hrunning : r.status i = .running) (outputs : Json.Object) :
    (complete s r i outputs).remaining s < r.remaining s := by
  have hle := totalEffort_le r (complete s r i outputs) hi fun j hj => by
    rw [status_complete_of_ne hj]
  rw [status_complete_self hlt, hrunning] at hle
  simp only [effort] at hle
  show (complete s r i outputs).totalEffort s + r.running.length +
    (r.chores ++ (s.plan.targets i).map Chore.release).length < r.remaining s
  rw [remaining, List.length_append, List.length_map]
  omega

/-- Failing a block saves its effort, and that of the blocks that are skipped with it. -/
lemma remaining_fail (hs : s.Planned) (hsize : r.cells.length = s.size) (hi : i < s.size)
    (hrunning : r.status i = .running) (e : Error) :
    (fail s r i e).remaining s < r.remaining s := by
  have hle := totalEffort_le r (fail s r i e) hi fun j hj => by
    rw [status_fail_of_ne hs hsize e hj]
    split_ifs
    · exact Nat.zero_le _
    · exact le_refl _
  rw [status_fail_self hs hsize e (hsize ▸ hi), hrunning] at hle
  simp only [effort] at hle
  rw [remaining, remaining, running_fail, chores_fail]
  omega

/-- **Every step of the work takes something off what is left to do.** -/
theorem remaining_lt (hs : s.Planned) (h : Sound s r) {event : RunEvent}
    (hwork : event.isWork) (henabled : r.Enabled event) (heffect : Effect s r event r') :
    r'.remaining s < r.remaining s := by
  cases heffect with
  | idle hno => exact absurd henabled hno
  | @returned i e hi =>
      have hlength := length_vacate h hi
      show r.totalEffort s + (vacate r.running i).length + r.chores.length < _
      rw [remaining]
      omega
  | @completed i e hchores hmem hend =>
      have hi := h.lt_of_running (h.mem_returned hmem)
      rw [← remaining_collected (s := s) (r := r) (i := i) e]
      exact remaining_complete hi (h.lt_collected hmem) (h.running_collected hmem) _
  | @failed i e failure hchores hmem hend =>
      have hi := h.lt_of_running (h.mem_returned hmem)
      rw [← remaining_collected (s := s) (r := r) (i := i) e]
      exact remaining_fail hs (h.collected hmem).size hi (h.running_collected hmem) failure
  | @started i rest hchores =>
      obtain ⟨hi, hpending, -⟩ := h.entry_of_start hs hchores
      have hle := remaining_start (r := { r with chores := rest }) hi h.size hpending
      have htail := remaining_tail (s := s) hchores
      omega
  | @counted i rest hchores _ =>
      have htail := remaining_tail (s := s) hchores
      rw [remaining_counted]
      omega
  | @released i rest hchores _ hpending _ =>
      have hle := remaining_start (h.lt_of_release hs hchores) (h.counted hchores).size hpending
      have htail := remaining_tail (s := s) hchores
      rw [remaining_counted] at hle
      omega
  | @lost i hi =>
      have hlength := length_vacate h hi
      show r.totalEffort s + (vacate r.running i).length + r.chores.length < _
      rw [remaining]
      omega
  | cancelled => cases hwork
  | ticked => cases hwork

/-- **While a run is not drained, something can happen**: a chore is done, an end is written down,
or a block returns, with whatever result. -/
theorem exists_enabled (h : r.isDrained = false) :
    r.Enabled .proceeds ∨ (∃ i, r.Enabled (.joins i)) ∨
      ∃ i, ∀ e, r.Enabled (.returns i e) := by
  rcases Decidable.em (r.chores = []) with hchores | hchores
  · rcases List.eq_nil_or_concat r.returned with hreturned | ⟨front, ⟨i, e⟩, hreturned⟩
    · obtain ⟨i, hi⟩ : ∃ i, i ∈ r.running := by
        refine List.exists_mem_of_ne_nil _ fun hrunning => ?_
        simp [isDrained, hchores, hreturned, hrunning] at h
      exact Or.inr (Or.inr ⟨i, fun _ => hi⟩)
    · refine Or.inr (Or.inl ⟨i, hchores, e, ?_⟩)
      rw [hreturned]
      simp
  · exact Or.inl hchores

/-! ## Nothing is left over -/

/-- **A run in which nothing was cancelled or lost.** -/
structure Live (s : RunSetup) (r : Run) : Prop where
  uncancelled : r.cancelled = false
  alive : ∀ i, r.status i = .running → i ∈ r.busy
  waits : ∀ i < s.size, r.status i = .pending → .start i ∈ r.chores ∨ (r.cell i).waiting ≠ 0

lemma live_begin (hs : s.Planned) (listener : Listener) : Live s (begin s listener false) := by
  have hpending := status_begin s listener false
  refine ⟨rfl, fun i hi => ?_, fun i hi _ => ?_⟩
  · rw [hpending] at hi
    cases hi
  · rcases Decidable.em (s.plan.sources i = []) with hnone | hsome
    · exact Or.inl (List.mem_map_of_mem (hs.lawful.mem_entries.mpr ⟨hi, hnone⟩))
    · rw [cell_begin listener false hi]
      exact Or.inr (by simpa using hsome)

namespace Live

/-- Other blocks stay at work when one is written down. -/
lemma busy_collected (h : Live s r) (e : BlockEnd) (hji : j ≠ i) (hj : r.status j = .running) :
    j ∈ (r.collected s i e).busy := by
  rcases List.mem_append.mp (h.alive j hj) with hj | hj
  · exact List.mem_append_left _ hj
  · obtain ⟨⟨k, x⟩, hx, rfl⟩ := List.mem_map.mp hj
    refine List.mem_append_right r.running (List.mem_map.mpr ⟨(k, x), ?_, rfl⟩)
    exact List.mem_filter.mpr ⟨hx, by simpa using hji⟩

lemma returned (hsound : Sound s r) (h : Live s r) (hi : i ∈ r.running) (e : BlockEnd) :
    Live s { r with running := vacate r.running i, returned := r.returned ++ [(i, e)] } := by
  refine ⟨h.uncancelled, fun j hj => ?_, h.waits⟩
  show j ∈ vacate r.running i ++ (r.returned ++ [(i, e)]).map Prod.fst
  rcases List.mem_append.mp (h.alive j hj) with hrunning | hreturned
  · rcases List.mem_cons.mp ((hsound.vacate_perm hi).mem_iff.mpr hrunning) with rfl | hrest
    · simp
    · exact List.mem_append_left _ hrest
  · refine List.mem_append_right _ ?_
    rw [List.map_append]
    exact List.mem_append_left _ hreturned

/-- A block that starts does not wait any more, and is at work. -/
lemma start (hsize : r.cells.length = s.size) (hi : i < s.size) (huncancelled : r.cancelled = false)
    (halive : ∀ j, r.status j = .running → j ∈ r.busy)
    (hwaits : ∀ j < s.size, j ≠ i → r.status j = .pending →
      .start j ∈ r.chores ∨ (r.cell j).waiting ≠ 0) : Live s (start s r i) := by
  have hlt : i < r.cells.length := hsize ▸ hi
  refine ⟨huncancelled, fun j hj => ?_, fun j hj hpending => ?_⟩
  · show j ∈ (r.running ++ [i]) ++ r.returned.map Prod.fst
    rw [status_start hlt] at hj
    split_ifs at hj with hji
    · rw [hji]
      simp
    · rcases List.mem_append.mp (halive j hj) with hj | hj
      · exact List.mem_append_left _ (List.mem_append_left _ hj)
      · exact List.mem_append_right _ hj
  · rw [status_start hlt] at hpending
    split_ifs at hpending with hji
    rw [cell_start_of_ne hji]
    exact hwaits j hj hji hpending

/-- Between two ends every pending block waits for something. -/
lemma waiting_ne_zero (h : Live s r) (hchores : r.chores = []) (hi : i < s.size)
    (hpending : r.status i = .pending) : (r.cell i).waiting ≠ 0 := by
  refine (h.waits i hi hpending).resolve_left fun hstart => ?_
  rw [hchores] at hstart
  cases hstart

/-- When a chore is taken, a pending block that it does not start is still to be started, or
waits. -/
lemma waits_tail (h : Live s r) {c : Chore} {rest : List Chore} (hchores : r.chores = c :: rest)
    (hi : i < s.size) (hne : .start i ≠ c) (hpending : r.status i = .pending) :
    .start i ∈ rest ∨ (r.cell i).waiting ≠ 0 := by
  refine (h.waits i hi hpending).imp_left fun hstart => ?_
  rw [hchores] at hstart
  exact (List.mem_cons.mp hstart).resolve_left hne

lemma completed (hsound : Sound s r) (h : Live s r) (hchores : r.chores = []) {e : BlockEnd}
    (hmem : (i, e) ∈ r.returned) : Live s (complete s (r.collected s i e) i e.delivered) := by
  have hlt := hsound.lt_collected (s := s) hmem
  refine ⟨h.uncancelled, fun j hj => ?_, fun j hj hpending => Or.inr ?_⟩
  · rw [status_complete hlt, status_collected] at hj
    split_ifs at hj with hji
    exact h.busy_collected e hji hj
  · rw [status_complete hlt, status_collected] at hpending
    split_ifs at hpending with hji
    rw [cell_complete_of_ne hji, cell_collected_of_ne hji]
    exact h.waiting_ne_zero hchores hj hpending

lemma failed (hs : s.Planned) (hsound : Sound s r) (h : Live s r) (hchores : r.chores = [])
    {e : BlockEnd} (hmem : (i, e) ∈ r.returned) (failure : Error) :
    Live s (fail s (r.collected s i e) i failure) := by
  have hlt := hsound.lt_collected (s := s) hmem
  have hsize := (hsound.collected (s := s) hmem).size
  refine ⟨(cancelled_fail failure).trans h.uncancelled, fun j hj => ?_,
    fun j hj hpending => Or.inr ?_⟩
  · rw [status_fail hs hsize failure hlt, status_collected] at hj
    split_ifs at hj with hji
    rw [busy, running_fail, returned_fail]
    exact h.busy_collected e hji hj
  · rw [status_fail hs hsize failure hlt, status_collected] at hpending
    split_ifs at hpending with hji
    rw [waiting_fail hs hsize failure hlt, cell_collected_of_ne hji]
    exact h.waiting_ne_zero hchores hj hpending

/-- A block that is told of a completion and not started waits for another one. -/
lemma counted (h : Live s r) {rest : List Chore} (hchores : r.chores = .release i :: rest)
    (hwaits : ((r.counted i rest).cell i).waiting ≠ 0 ∨
      (r.counted i rest).status i ≠ .pending ∨ r.cancelled = true) :
    Live s (r.counted i rest) := by
  refine ⟨h.uncancelled, fun j hj => ?_, fun j hj hpending => ?_⟩
  · rw [status_counted] at hj
    exact h.alive j hj
  · by_cases hji : j = i
    · subst hji
      rcases hwaits with hwaits | hwaits | hwaits
      · exact Or.inr hwaits
      · exact absurd hpending hwaits
      · rw [h.uncancelled] at hwaits
        cases hwaits
    · rw [status_counted] at hpending
      rw [cell_counted_of_ne hji]
      exact h.waits_tail hchores hj nofun hpending

/-- **Without cancellations and losses, every event keeps a run live.** -/
theorem of_effect (hs : s.Planned) (hsound : Sound s r) (h : Live s r) {event : RunEvent}
    (hcancels : event ≠ .cancels) (hloses : ∀ i, event ≠ .loses i) (heffect : Effect s r event r') :
    Live s r' := by
  cases heffect with
  | idle _ => exact h
  | returned hi => exact h.returned hsound hi _
  | completed hchores hmem _ => exact h.completed hsound hchores hmem
  | failed hchores hmem _ => exact h.failed hs hsound hchores hmem _
  | @started i rest hchores =>
      obtain ⟨hi, -, -⟩ := hsound.entry_of_start hs hchores
      exact start (r := { r with chores := rest }) hsound.size hi h.uncancelled h.alive
        fun j hj hji => h.waits_tail hchores hj fun heq => hji (Chore.start.inj heq)
  | counted hchores hwaits => exact h.counted hchores hwaits
  | @released i rest hchores _ hpending _ =>
      refine start (hsound.counted hchores).size (hsound.lt_of_release hs hchores) h.uncancelled
        (fun j hj => ?_) fun j hj hji hpending => ?_
      · rw [status_counted] at hj
        exact h.alive j hj
      · rw [status_counted] at hpending
        rw [cell_counted_of_ne hji]
        exact h.waits_tail hchores hj nofun hpending
  | lost _ => exact absurd rfl (hloses _)
  | cancelled => exact absurd rfl hcancels
  | ticked => exact ⟨h.uncancelled, h.alive, h.waits⟩

/-- **Between two ends a pending block waits for a block that may still complete.**  A block before
it that failed or was skipped would have taken it along. -/
theorem exists_ahead (hs : s.Planned) (hsound : Sound s r) (h : Live s r) (hchores : r.chores = [])
    (hi : i < s.size) (hpending : r.status i = .pending) :
    ∃ u ∈ s.plan.sources i, r.status u = .pending ∨ r.status u = .running := by
  have hwaiting := h.waiting_ne_zero hchores hi hpending
  rw [hsound.waiting i hi, hchores, List.count_nil, Nat.add_zero] at hwaiting
  obtain ⟨u, hu, hne⟩ : ∃ u ∈ s.plan.sources i, r.status u ≠ .completed := by
    by_contra hall
    push Not at hall
    exact hwaiting (unmet_eq_zero_iff.mpr hall)
  have hgoes : ¬ (r.status u = .failed ∨ r.status u = .skipped) := by
    intro hstopped
    have hskipped := hsound.cascade u hstopped i (hs.lawful.mem_sources_iff_mem_targets.mp hu)
    rw [hpending] at hskipped
    cases hskipped
  refine ⟨u, hu, ?_⟩
  cases hstatus : r.status u with
  | pending => exact Or.inl rfl
  | running => exact Or.inr rfl
  | completed => exact absurd hstatus hne
  | failed => exact absurd (Or.inl hstatus) hgoes
  | skipped => exact absurd (Or.inr hstatus) hgoes

/-- **When a live run is drained, every block has come to its end.**  A block that is still pending
would wait for an earlier one that is, too. -/
theorem isTerminal (hs : s.Planned) (hsound : Sound s r) (h : Live s r) (hended : r.isDrained)
    (hi : i < s.size) : (r.status i).isTerminal := by
  simp only [isDrained, Bool.and_eq_true, List.isEmpty_iff] at hended
  obtain ⟨⟨hchores, hrunning⟩, hreturned⟩ := hended
  have hidle : ∀ j, r.status j ≠ .running := by
    intro j hj
    have hbusy := h.alive j hj
    rw [busy, hrunning, hreturned] at hbusy
    cases hbusy
  induction hrank : s.plan.rank i using Nat.strong_induction_on generalizing i with
  | _ k ih =>
      refine BlockStatus.isTerminal_of_ne (hidle i) fun hpending => ?_
      obtain ⟨u, hu, hahead | hahead⟩ := h.exists_ahead hs hsound hchores hi hpending
      · have hedge := hs.lawful.mem_sources.mp hu
        have hterminal := ih (s.plan.rank u) (hrank ▸ hs.lawful.rank_lt hedge)
          (hs.lawful.lt_of_edge hedge).1 rfl
        rw [hahead] at hterminal
        cases hterminal
      · exact hidle u hahead

end Live

end Run

end Blockflow
