import Blockflow.Proofs.Run.Events

/-!
# The books of a run agree

A run keeps several books at once: the states of its blocks, counters of what each block waits
for, the chores still to be done, and which started blocks have not returned or not been written
down.  `Run.Sound` says how they hang together, and every event keeps it.

* `Run.busy`, `Run.unmet` — the blocks at work, and how many blocks a block still needs.
* **`Run.Sound`** — the agreement.  The counter of a block is what it still needs and what it has
  not been told yet (`waiting`); a block begins once all blocks before it have completed
  (`upstream`); what failed or was skipped takes along what comes after it (`cascade`).
* `Sound.start`, `Sound.complete`, `Sound.fail` — the three operations that need an argument.
* **`sound_after`** — every run that has a plan is sound, whatever happens in it.
-/

namespace Blockflow

namespace Run

variable {s : RunSetup} {r : Run} {i j : Nat}

/-- The blocks at work: those that run, and those that returned and are to be written down. -/
def busy (r : Run) : List Nat := r.running ++ r.returned.map Prod.fst

/-- How many of the blocks before a block have not completed. -/
def unmet (s : RunSetup) (r : Run) (i : Nat) : Nat :=
  (s.plan.sources i).countP fun u => r.status u ≠ .completed

/-- **The books agree.** -/
structure Sound (s : RunSetup) (r : Run) : Prop where
  size : r.cells.length = s.size
  busy_nodup : r.busy.Nodup
  busy_running : ∀ i ∈ r.busy, r.status i = .running
  to_start : ∀ i, .start i ∈ r.chores → i ∈ s.plan.entries ∧ r.status i = .pending
  starts_once : ∀ i, r.chores.count (.start i) ≤ 1
  to_release : ∀ i, .release i ∈ r.chores → s.plan.sources i ≠ []
  waiting : ∀ i < s.size, (r.cell i).waiting = r.unmet s i + r.chores.count (.release i)
  upstream : ∀ i, (r.status i).isBegun → ∀ u ∈ s.plan.sources i, r.status u = .completed
  cascade : ∀ u, r.status u = .failed ∨ r.status u = .skipped →
    ∀ d ∈ s.plan.targets u, r.status d = .skipped
  started : ∀ i, i ∈ r.started ↔ (r.status i).isBegun

/-! ## What is unmet -/

lemma unmet_congr {r' : Run} (h : ∀ u, r'.status u = .completed ↔ r.status u = .completed) :
    r'.unmet s i = r.unmet s i := by
  refine List.countP_congr fun u _ => ?_
  simp [h u]

lemma unmet_eq_zero_iff :
    r.unmet s i = 0 ↔ ∀ u ∈ s.plan.sources i, r.status u = .completed := by
  simp [unmet, List.countP_eq_zero]

/-- Turning one element of a list from counted to not counted lowers the count by one. -/
lemma countP_add_one_of_nodup {p q : Nat → Bool} {u : Nat} (hp : p u = true) (hq : q u = false)
    (hpq : ∀ v, v ≠ u → p v = q v) : ∀ l : List Nat, l.Nodup →
      l.countP p = l.countP q + if u ∈ l then 1 else 0 := by
  intro l
  induction l with
  | nil => simp
  | cons v l ih =>
      intro hnodup
      obtain ⟨hv, hl⟩ := List.nodup_cons.mp hnodup
      by_cases huv : v = u
      · subst huv
        rw [List.countP_cons_of_pos hp, List.countP_cons_of_neg (by simp [hq]), ih hl, if_neg hv]
        simp
      · have hmem : u ∈ v :: l ↔ u ∈ l := by simp [Ne.symm huv]
        rw [List.countP_cons, List.countP_cons, ih hl, hpq v huv, if_congr hmem rfl rfl]
        omega

/-- A block that completes is one less to wait for, for the blocks behind it. -/
lemma unmet_complete (hs : s.Planned) (hi : i < r.cells.length) (hne : r.status i ≠ .completed)
    (outputs : Json.Object) :
    r.unmet s j = (complete s r i outputs).unmet s j + if i ∈ s.plan.sources j then 1 else 0 := by
  refine countP_add_one_of_nodup (by simpa using hne) ?_ (fun v hv => ?_) _
    (hs.lawful.nodup_sources j)
  · simp [status_complete_self hi]
  · rw [status_complete_of_ne hv]

lemma count_release_targets (hs : s.Planned) :
    ((s.plan.targets i).map Chore.release).count (.release j) =
      if i ∈ s.plan.sources j then 1 else 0 := by
  have hinj : Function.Injective Chore.release := fun a b h => by cases h; rfl
  rw [List.count_map_of_injective _ _ hinj, (hs.lawful.nodup_targets i).count,
    if_congr hs.lawful.mem_sources_iff_mem_targets rfl rfl]

/-! ## What does not touch the cells -/

namespace Sound

/-- Books other than statuses, counters and chores may change, as long as no block comes to
work. -/
lemma of_books (h : Sound s r) {r' : Run} (hsize : r'.cells.length = r.cells.length)
    (hstatus : ∀ i, r'.status i = r.status i)
    (hwaiting : ∀ i, (r'.cell i).waiting = (r.cell i).waiting) (hchores : r'.chores = r.chores)
    (hstarted : r'.started = r.started) (hnodup : r'.busy.Nodup) (hsub : r'.busy ⊆ r.busy) :
    Sound s r' := by
  have hunmet : ∀ i, r'.unmet s i = r.unmet s i := fun i => unmet_congr fun u => by rw [hstatus]
  refine ⟨by rw [hsize, h.size], hnodup, ?_, ?_, ?_, ?_, ?_, ?_, ?_, ?_⟩
  · intro i hi
    rw [hstatus, h.busy_running i (hsub hi)]
  · intro i hi
    rw [hstatus]
    exact h.to_start i (hchores ▸ hi)
  · rw [hchores]
    exact h.starts_once
  · rw [hchores]
    exact h.to_release
  · intro i hi
    rw [hwaiting, hunmet, hchores, h.waiting i hi]
  · intro i hi u hu
    rw [hstatus] at hi ⊢
    exact h.upstream i hi u hu
  · intro u hu d hd
    rw [hstatus] at hu ⊢
    exact h.cascade u hu d hd
  · intro i
    rw [hstarted, hstatus]
    exact h.started i

/-- In particular everything but cells, chores and starts. -/
lemma of_cells (h : Sound s r) {r' : Run} (hcells : r'.cells = r.cells)
    (hchores : r'.chores = r.chores) (hstarted : r'.started = r.started) (hnodup : r'.busy.Nodup)
    (hsub : r'.busy ⊆ r.busy) : Sound s r' :=
  h.of_books (by rw [hcells]) (fun i => by rw [status, status, cell_congr hcells])
    (fun i => by rw [cell_congr hcells]) hchores hstarted hnodup hsub

lemma mem_running (h : Sound s r) (hi : i ∈ r.running) : r.status i = .running :=
  h.busy_running i (List.mem_append_left _ hi)

lemma mem_returned (h : Sound s r) {e : BlockEnd} (hi : (i, e) ∈ r.returned) :
    r.status i = .running :=
  h.busy_running i (List.mem_append_right _ (List.mem_map_of_mem hi))

lemma lt_of_running (h : Sound s r) (hi : r.status i = .running) : i < s.size := by
  rw [← h.size]
  exact lt_of_status_ne (by rw [hi]; nofun)

lemma running_nodup (h : Sound s r) : r.running.Nodup := (List.nodup_append.mp h.busy_nodup).1

lemma vacate_perm (h : Sound s r) (hi : i ∈ r.running) :
    (i :: vacate r.running i).Perm r.running :=
  ((Run.vacate_perm h.running_nodup hi).cons i).trans (List.perm_cons_erase hi).symm

lemma returned (h : Sound s r) (hi : i ∈ r.running) (e : BlockEnd) :
    Sound s { r with running := vacate r.running i, returned := r.returned ++ [(i, e)] } := by
  have hperm : (vacate r.running i ++ (r.returned ++ [(i, e)]).map Prod.fst).Perm r.busy := by
    rw [List.map_append, ← List.append_assoc]
    refine (List.perm_append_singleton i _).trans ?_
    exact (h.vacate_perm hi).append_right _
  exact h.of_cells rfl rfl rfl (hperm.nodup_iff.mpr h.busy_nodup) hperm.subset

lemma lost (h : Sound s r) (hi : i ∈ r.running) :
    Sound s { r with running := vacate r.running i } := by
  have hperm := (h.vacate_perm hi).append_right (r.returned.map Prod.fst)
  have hsub : (vacate r.running i ++ r.returned.map Prod.fst).Sublist
      (i :: vacate r.running i ++ r.returned.map Prod.fst) := List.sublist_cons_self _ _
  exact h.of_cells rfl rfl rfl ((hperm.nodup_iff.mpr h.busy_nodup).sublist hsub)
    fun j hj => hperm.subset (hsub.subset hj)

/-! ## Chores -/

/-- A start that is taken from the chores. -/
lemma tail_start (h : Sound s r) {rest : List Chore} (hchores : r.chores = .start i :: rest) :
    Sound s { r with chores := rest } ∧ .start i ∉ rest := by
  have hrest : ∀ c ∈ rest, c ∈ r.chores := fun c hc => hchores ▸ List.mem_cons_of_mem _ hc
  have hcount : ∀ j, rest.count (.release j) = r.chores.count (.release j) := by
    intro j
    rw [hchores, List.count_cons_of_ne (by nofun)]
  have honce : ∀ j, rest.count (.start j) ≤ r.chores.count (.start j) := by
    intro j
    rw [hchores]
    exact List.count_le_count_cons
  refine ⟨⟨h.size, h.busy_nodup, h.busy_running, fun j hj => h.to_start j (hrest _ hj),
    fun j => (honce j).trans (h.starts_once j), fun j hj => h.to_release j (hrest _ hj), ?_,
    h.upstream, h.cascade, h.started⟩, ?_⟩
  · intro j hj
    show (r.cell j).waiting = r.unmet s j + rest.count (.release j)
    rw [hcount, h.waiting j hj]
  · intro hmem
    have hpos := List.count_pos_iff.mpr hmem
    have hle := h.starts_once i
    rw [hchores, List.count_cons_self] at hle
    omega

/-- **A block is told that one less is to wait for.** -/
theorem counted (h : Sound s r) {rest : List Chore}
    (hchores : r.chores = .release i :: rest) : Sound s (r.counted i rest) := by
  have hrest : ∀ c ∈ rest, c ∈ r.chores := fun c hc => hchores ▸ List.mem_cons_of_mem _ hc
  have hstatus : ∀ j, (r.counted i rest).status j = r.status j := status_counted rest
  have honce : ∀ j, rest.count (.start j) = r.chores.count (.start j) := by
    intro j
    rw [hchores, List.count_cons_of_ne (by nofun)]
  refine ⟨(length_modifyCell _).trans h.size, h.busy_nodup, ?_, ?_, ?_,
    fun j hj => h.to_release j (hrest _ hj), ?_, ?_, ?_, ?_⟩
  · intro j hj
    rw [hstatus, h.busy_running j hj]
  · intro j hj
    rw [hstatus]
    exact h.to_start j (hrest _ hj)
  · intro j
    rw [show (r.counted i rest).chores = rest from rfl, honce]
    exact h.starts_once j
  · intro j hj
    have hunmet : (r.counted i rest).unmet s j = r.unmet s j :=
      unmet_congr fun u => by rw [hstatus]
    have hwaiting := h.waiting j hj
    rw [hunmet, show (r.counted i rest).chores = rest from rfl]
    by_cases hji : j = i
    · subst hji
      rw [cell_counted_self (by rw [h.size]; exact hj)]
      show (r.cell j).waiting - 1 = _
      rw [hwaiting, hchores, List.count_cons_self]
      omega
    · rw [Run.counted, cell_modifyCell_of_ne hji]
      show (r.cell j).waiting = _
      rw [hwaiting, hchores, List.count_cons_of_ne (by simpa using Ne.symm hji)]
  · intro j hj u hu
    rw [hstatus] at hj ⊢
    exact h.upstream j hj u hu
  · intro u hu d hd
    rw [hstatus] at hu ⊢
    exact h.cascade u hu d hd
  · intro j
    rw [hstatus]
    exact h.started j

lemma lt_of_release (hs : s.Planned) (h : Sound s r) {rest : List Chore}
    (hchores : r.chores = .release i :: rest) : i < s.size := by
  obtain ⟨u, hu⟩ := List.exists_mem_of_ne_nil _ (h.to_release i (hchores ▸ List.mem_cons_self))
  exact (hs.lawful.lt_of_edge (hs.lawful.mem_sources.mp hu)).2

/-- A block that is to be started is pending, and no block comes before it. -/
lemma entry_of_start (hs : s.Planned) (h : Sound s r) {rest : List Chore}
    (hchores : r.chores = .start i :: rest) :
    i < s.size ∧ r.status i = .pending ∧ s.plan.sources i = [] := by
  obtain ⟨hentry, hpending⟩ := h.to_start i (hchores ▸ List.mem_cons_self)
  obtain ⟨hi, hnone⟩ := hs.lawful.mem_entries.mp hentry
  exact ⟨hi, hpending, hnone⟩

/-- **When a counter comes to zero**, all blocks before the block have completed. -/
theorem unmet_counted (hs : s.Planned) (h : Sound s r) {rest : List Chore}
    (hchores : r.chores = .release i :: rest)
    (hwaiting : ((r.counted i rest).cell i).waiting = 0) : (r.counted i rest).unmet s i = 0 := by
  have hsum := (h.counted hchores).waiting i (h.lt_of_release hs hchores)
  omega

/-! ## When statuses change -/

/-- What completed stays so, and what begins has what it needs. -/
lemma upstream_mono (h : Sound s r) {r' : Run}
    (hkeep : ∀ u, r.status u = .completed → r'.status u = .completed)
    (hbegun : ∀ j, (r'.status j).isBegun → (r.status j).isBegun ∨ r.unmet s j = 0) :
    ∀ j, (r'.status j).isBegun → ∀ u ∈ s.plan.sources j, r'.status u = .completed := by
  intro j hj u hu
  rcases hbegun j hj with hj | hmet
  · exact hkeep u (h.upstream j hj u hu)
  · exact hkeep u (unmet_eq_zero_iff.mp hmet u hu)

/-- What was skipped stays so, and nothing else stops. -/
lemma cascade_mono (h : Sound s r) {r' : Run}
    (hkeep : ∀ d, r.status d = .skipped → r'.status d = .skipped)
    (hstops : ∀ u, r'.status u = .failed ∨ r'.status u = .skipped →
      r.status u = .failed ∨ r.status u = .skipped) :
    ∀ u, r'.status u = .failed ∨ r'.status u = .skipped →
      ∀ d ∈ s.plan.targets u, r'.status d = .skipped :=
  fun u hu d hd => hkeep d (h.cascade u (hstops u hu) d hd)

/-! ## Starting -/

/-- **A pending block may be started** once all blocks before it have completed. -/
theorem start (h : Sound s r) (hi : i < s.size) (hpending : r.status i = .pending)
    (hchores : .start i ∉ r.chores) (hmet : r.unmet s i = 0) : Sound s (start s r i) := by
  have hlt : i < r.cells.length := by rw [h.size]; exact hi
  have hstatus := status_start (s := s) hlt
  have hkeep : ∀ j, r.status j ≠ .pending → (Run.start s r i).status j = r.status j := by
    intro j hj
    refine status_start_of_ne ?_
    rintro rfl
    exact hj hpending
  have hcompleted : ∀ u, (Run.start s r i).status u = .completed ↔ r.status u = .completed := by
    intro u
    rw [hstatus]
    split_ifs with hu
    · simp [hu, hpending]
    · rfl
  have hbusy : (Run.start s r i).busy.Perm (i :: r.busy) := by
    show ((r.running ++ [i]) ++ r.returned.map Prod.fst).Perm _
    rw [List.append_assoc]
    exact List.perm_middle
  refine
    { size := by rw [length_start, h.size]
      busy_nodup := ?_
      busy_running := fun j hj => ?_
      to_start := fun j hj => ?_
      starts_once := h.starts_once
      to_release := h.to_release
      waiting := fun j hj => ?_
      upstream := h.upstream_mono (fun u => (hcompleted u).mpr) fun j hj => ?_
      cascade := h.cascade_mono (fun d hd => ?_) fun u hu => ?_
      started := fun j => ?_ }
  · rw [hbusy.nodup_iff, List.nodup_cons]
    refine ⟨fun hmem => ?_, h.busy_nodup⟩
    rw [h.busy_running i hmem] at hpending
    cases hpending
  · rcases List.mem_cons.mp (hbusy.mem_iff.mp hj) with rfl | hj
    · exact status_start_self hlt
    · have hrunning := h.busy_running j hj
      rw [hkeep j (by rw [hrunning]; nofun), hrunning]
  · have hne : j ≠ i := by
      rintro rfl
      exact hchores hj
    rw [status_start_of_ne hne]
    exact h.to_start j hj
  · rw [waiting_start hlt, unmet_congr hcompleted]
    exact h.waiting j hj
  · rw [hstatus] at hj
    split_ifs at hj with hji
    · exact Or.inr (hji ▸ hmet)
    · exact Or.inl hj
  · rw [hkeep d (by rw [hd]; nofun), hd]
  · rw [hstatus] at hu
    split_ifs at hu
    · rcases hu with hu | hu <;> cases hu
    · exact hu
  · show j ∈ r.started ++ [i] ↔ _
    rw [List.mem_append, List.mem_singleton, h.started j, hstatus]
    by_cases hj : j = i
    · simp [hj, BlockStatus.isBegun]
    · simp [hj]

/-! ## Completing -/

/-- **A running block may complete** once it is not at work any more. -/
theorem complete (hs : s.Planned) (h : Sound s r) (hi : r.status i = .running) (hbusy : i ∉ r.busy)
    (outputs : Json.Object) : Sound s (complete s r i outputs) := by
  have hlt : i < r.cells.length := lt_of_status_ne (by rw [hi]; nofun)
  have hstatus := status_complete (s := s) hlt outputs
  have hkeep : ∀ j, r.status j ≠ .running →
      (Run.complete s r i outputs).status j = r.status j := by
    intro j hj
    refine status_complete_of_ne ?_ outputs
    rintro rfl
    exact hj hi
  have hchores : (Run.complete s r i outputs).chores =
      r.chores ++ (s.plan.targets i).map .release := rfl
  refine
    { size := by rw [length_complete, h.size]
      busy_nodup := h.busy_nodup
      busy_running := fun j hj => ?_
      to_start := fun j hj => ?_
      starts_once := fun j => ?_
      to_release := fun j hj => ?_
      waiting := fun j hj => ?_
      upstream := h.upstream_mono (fun u hu => ?_) fun j hj => Or.inl ?_
      cascade := h.cascade_mono (fun d hd => ?_) fun u hu => ?_
      started := fun j => ?_ }
  · have hji : j ≠ i := by
      rintro rfl
      exact hbusy hj
    rw [status_complete_of_ne hji]
    exact h.busy_running j hj
  · have hj : .start j ∈ r.chores := by simpa [hchores] using hj
    obtain ⟨hentry, hpending⟩ := h.to_start j hj
    rw [hkeep j (by rw [hpending]; nofun)]
    exact ⟨hentry, hpending⟩
  · have hnone : ((s.plan.targets i).map Chore.release).count (.start j) = 0 :=
      List.count_eq_zero.mpr (by simp)
    rw [hchores, List.count_append, hnone, Nat.add_zero]
    exact h.starts_once j
  · rw [hchores, List.mem_append] at hj
    rcases hj with hj | hj
    · exact h.to_release j hj
    · have hd : j ∈ s.plan.targets i := by simpa using hj
      exact List.ne_nil_of_mem (hs.lawful.mem_sources_iff_mem_targets.mpr hd)
  · have hunmet := unmet_complete (j := j) hs hlt (by rw [hi]; nofun) outputs
    rw [waiting_complete hlt, hchores, List.count_append, count_release_targets hs, h.waiting j hj,
      hunmet]
    omega
  · rw [hkeep u (by rw [hu]; nofun), hu]
  · rw [hstatus] at hj
    split_ifs at hj with hji
    · rw [hji, hi]
      rfl
    · exact hj
  · rw [hkeep d (by rw [hd]; nofun), hd]
  · rw [hstatus] at hu
    split_ifs at hu
    · rcases hu with hu | hu <;> cases hu
    · exact hu
  · show j ∈ r.started ↔ _
    rw [h.started j, hstatus]
    split_ifs with hj
    · simp [hj, hi, BlockStatus.isBegun]
    · rfl

/-! ## Failing -/

/-- Nothing that depends on a block begins before that block completes. -/
lemma not_begun_of_mem_descendants (hs : s.Planned) (h : Sound s r) (hi : r.status i ≠ .completed)
    (hj : j ∈ s.plan.descendants i) : (r.status j).isBegun = false := by
  have hstep : ∀ u v, r.status u ≠ .completed → (u, v) ∈ s.plan.edges →
      (r.status v).isBegun = false := by
    intro u v hu huv
    by_contra hv
    exact hu (h.upstream v (by simpa using hv) u (hs.lawful.mem_sources.mpr huv))
  have hnever : ∀ u, (r.status u).isBegun = false → r.status u ≠ .completed := by
    intro u hu heq
    rw [heq] at hu
    cases hu
  induction hs.lawful.mem_descendants.mp hj with
  | single he => exact hstep i _ hi he
  | tail hpath he ih =>
      exact hstep _ _ (hnever _ (ih (hs.lawful.mem_descendants.mpr hpath))) he

/-- When a block fails, everything that depends on it is skipped. -/
lemma status_fail_of_mem_descendants (hs : s.Planned) (h : Sound s r) (hi : r.status i = .running)
    (e : Error) (hj : j ∈ s.plan.descendants i) : (Run.fail s r i e).status j = .skipped := by
  have hbegun := h.not_begun_of_mem_descendants hs (by rw [hi]; decide) hj
  have hji : j ≠ i := by
    rintro rfl
    exact hs.lawful.not_mem_descendants_self hj
  rw [status_fail_of_ne hs h.size e hji]
  cases hstatus : r.status j with
  | pending => rw [if_pos ⟨hj, rfl⟩]
  | skipped => exact ite_self _
  | running => rw [hstatus] at hbegun; cases hbegun
  | completed => rw [hstatus] at hbegun; cases hbegun
  | failed => rw [hstatus] at hbegun; cases hbegun

/-- A failure neither completes anything nor undoes it. -/
lemma status_fail_eq_completed_iff (hs : s.Planned) (h : Sound s r) (hi : r.status i = .running)
    (e : Error) (j : Nat) : (Run.fail s r i e).status j = .completed ↔ r.status j = .completed := by
  rw [status_fail hs h.size e (lt_of_status_ne (by rw [hi]; decide))]
  split_ifs with hj hc
  · simp [hj, hi]
  · simp [hc.2]
  · rfl

/-- What depends on a failed block, or on one that was skipped with it, is skipped. -/
lemma cascade_fail (hs : s.Planned) (h : Sound s r) (hi : r.status i = .running) (e : Error)
    {u d : Nat} (hu : (Run.fail s r i e).status u = .failed ∨
      (Run.fail s r i e).status u = .skipped) (hd : d ∈ s.plan.targets u) :
    (Run.fail s r i e).status d = .skipped := by
  rw [status_fail hs h.size e (lt_of_status_ne (by rw [hi]; decide))] at hu
  split_ifs at hu with hui hc
  · rw [hui] at hd
    exact h.status_fail_of_mem_descendants hs hi e (hs.lawful.mem_descendants_of_mem_targets hd)
  · exact h.status_fail_of_mem_descendants hs hi e (hs.lawful.descendants_trans hc.1 hd)
  · have hskipped := h.cascade u hu d hd
    have hdi : d ≠ i := by
      rintro rfl
      rw [hi] at hskipped
      cases hskipped
    rw [status_fail_of_ne hs h.size e hdi, hskipped, ite_self]

/-- **A running block may fail**: everything that depends on it is then skipped, for none of it
has begun. -/
theorem fail (hs : s.Planned) (h : Sound s r) (hi : r.status i = .running) (hbusy : i ∉ r.busy)
    (e : Error) : Sound s (fail s r i e) := by
  have hlt : i < r.cells.length := lt_of_status_ne (by rw [hi]; decide)
  have hstatus := status_fail hs h.size e hlt
  have hcompleted := h.status_fail_eq_completed_iff hs hi e
  have hbusy' : (Run.fail s r i e).busy = r.busy := by
    rw [busy, running_fail, returned_fail, busy]
  refine
    { size := by rw [length_fail, h.size]
      busy_nodup := by rw [hbusy']; exact h.busy_nodup
      busy_running := fun j hj => ?_
      to_start := fun j hj => ?_
      starts_once := by rw [chores_fail]; exact h.starts_once
      to_release := by rw [chores_fail]; exact h.to_release
      waiting := fun j hj => ?_
      upstream := h.upstream_mono (fun u => (hcompleted u).mpr) fun j hj => Or.inl ?_
      cascade := fun u hu d hd => h.cascade_fail hs hi e hu hd
      started := fun j => ?_ }
  · rw [hbusy'] at hj
    have hrunning := h.busy_running j hj
    have hji : j ≠ i := by
      rintro rfl
      exact hbusy hj
    rw [status_fail_of_ne hs h.size e hji, hrunning, if_neg nofun]
  · rw [chores_fail] at hj
    obtain ⟨hentry, hpending⟩ := h.to_start j hj
    have hji : j ≠ i := by
      rintro rfl
      rw [hi] at hpending
      cases hpending
    rw [status_fail_of_ne hs h.size e hji,
      if_neg fun hc => hs.lawful.not_mem_descendants_of_mem_entries hentry hc.1]
    exact ⟨hentry, hpending⟩
  · rw [waiting_fail hs h.size e hlt, unmet_congr hcompleted, chores_fail]
    exact h.waiting j hj
  · rw [hstatus] at hj
    split_ifs at hj with hji
    · rw [hji, hi]
      rfl
    · cases hj
    · exact hj
  · rw [started_fail, h.started j, hstatus]
    split_ifs with hj hc
    · simp [hj, hi, BlockStatus.isBegun]
    · simp [hc.2, BlockStatus.isBegun]
    · rfl

/-! ## Every event -/

lemma busy_collected (h : Sound s r) {e : BlockEnd} (hmem : (i, e) ∈ r.returned) :
    i ∉ (r.collected s i e).busy ∧ (r.collected s i e).busy.Sublist r.busy := by
  have hfilter : ((r.returned.filter fun x => x.1 ≠ i).map Prod.fst).Sublist
      (r.returned.map Prod.fst) := List.filter_sublist.map _
  refine ⟨fun hi => ?_, (List.Sublist.refl r.running).append hfilter⟩
  have hi : i ∈ r.running ++ (r.returned.filter fun x => x.1 ≠ i).map Prod.fst := hi
  rcases List.mem_append.mp hi with hi | hi
  · obtain ⟨_, _, hdisj⟩ := List.nodup_append.mp h.busy_nodup
    exact hdisj i hi i (List.mem_map_of_mem hmem) rfl
  · simp at hi

lemma collected (h : Sound s r) {e : BlockEnd} (hmem : (i, e) ∈ r.returned) :
    Sound s (r.collected s i e) :=
  h.of_books (length_noted e) (status_noted e) (waiting_noted e) rfl rfl
    (h.busy_nodup.sublist (h.busy_collected hmem).2) (h.busy_collected hmem).2.subset

lemma running_collected (h : Sound s r) {e : BlockEnd} (hmem : (i, e) ∈ r.returned) :
    (r.collected s i e).status i = .running :=
  (status_noted e i).trans (h.mem_returned hmem)

lemma lt_collected (h : Sound s r) {e : BlockEnd} (hmem : (i, e) ∈ r.returned) :
    i < (r.collected s i e).cells.length :=
  lt_of_status_ne (by rw [h.running_collected hmem]; decide)

/-- **Every event keeps the books in agreement.** -/
theorem of_effect (hs : s.Planned) (h : Sound s r) {event : RunEvent} {r' : Run}
    (heffect : Effect s r event r') : Sound s r' := by
  cases heffect with
  | idle => exact h
  | returned hi => exact h.returned hi _
  | completed hchores hmem hend =>
      exact (h.collected hmem).complete hs (h.running_collected hmem) (h.busy_collected hmem).1 _
  | failed hchores hmem hend =>
      exact (h.collected hmem).fail hs (h.running_collected hmem) (h.busy_collected hmem).1 _
  | started hchores =>
      obtain ⟨hrest, hno⟩ := h.tail_start hchores
      obtain ⟨hlt, hpending, hnone⟩ := h.entry_of_start hs hchores
      exact hrest.start hlt hpending hno (by rw [unmet, hnone, List.countP_nil])
  | counted hchores _ => exact h.counted hchores
  | @released i rest hchores hwaiting hpending hcancelled =>
      have hcounted := h.counted hchores
      have hlt := h.lt_of_release hs hchores
      refine hcounted.start hlt hpending (fun hstart => ?_) (h.unmet_counted hs hchores hwaiting)
      have hnone := (hs.lawful.mem_entries.mp (hcounted.to_start i hstart).1).2
      exact h.to_release i (hchores ▸ List.mem_cons_self) hnone
  | lost hi => exact h.lost hi
  | cancelled => exact h.of_cells rfl rfl rfl h.busy_nodup (List.Subset.refl _)
  | ticked => exact h.of_cells rfl rfl rfl h.busy_nodup (List.Subset.refl _)

end Sound

/-! ## Every run -/

lemma cell_begin (listener : Listener) (cancelled : Bool) (hi : i < s.size) :
    (begin s listener cancelled).cell i = { waiting := (s.plan.sources i).length } := by
  have : i < s.workflow.blocks.length := hi
  simp [begin, initial, cell, this]

lemma status_begin (s : RunSetup) (listener : Listener) (cancelled : Bool) (i : Nat) :
    (begin s listener cancelled).status i = .pending := by
  by_contra h
  have hlt := lt_of_status_ne h
  have hi : i < s.size := by simpa [begin, initial, RunSetup.size] using hlt
  exact h (by rw [status, cell_begin listener cancelled hi])

lemma sound_begin (hs : s.Planned) (listener : Listener) (cancelled : Bool) :
    Sound s (begin s listener cancelled) := by
  have hpending := status_begin s listener cancelled
  have hchores : (begin s listener cancelled).chores = s.plan.entries.map .start := rfl
  have hinj : Function.Injective Chore.start := fun a b h => by cases h; rfl
  have hnone : ∀ j, (s.plan.entries.map Chore.start).count (.release j) = 0 :=
    fun j => List.count_eq_zero.mpr (by simp)
  refine ⟨by simp [begin, initial, RunSetup.size], List.nodup_nil,
    fun i hi => absurd hi (by simp [busy, begin, initial]), ?_, ?_, ?_, ?_, ?_, ?_, ?_⟩
  · intro j hj
    exact ⟨by simpa [hchores] using hj, hpending j⟩
  · intro j
    rw [hchores, List.count_map_of_injective _ _ hinj]
    exact List.nodup_iff_count_le_one.mp hs.lawful.nodup_entries j
  · intro j hj
    exact absurd hj (by simp [hchores])
  · intro j hj
    rw [hchores, hnone, cell_begin listener cancelled hj, unmet, List.countP_eq_length.mpr]
    · rfl
    · intro u _
      simp [hpending u]
  · intro j hj
    rw [hpending] at hj
    cases hj
  · intro u hu
    rw [hpending] at hu
    rcases hu with hu | hu <;> cases hu
  · intro j
    rw [hpending]
    simp [begin, initial, BlockStatus.isBegun]

/-- **Whatever happens in a run, its books agree.** -/
theorem sound_after (hs : s.Planned) (listener : Listener) (cancelled : Bool)
    (events : List RunEvent) : Sound s (after s (begin s listener cancelled) events) :=
  after_invariant (fun r event h => h.of_effect hs (step_effect s r event)) events _
    (sound_begin hs listener cancelled)

end Run

end Blockflow
