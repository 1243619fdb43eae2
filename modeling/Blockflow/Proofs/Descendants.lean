import Blockflow.Proofs.Neighbours
import Mathlib.Algebra.Order.BigOperators.Group.Finset

/-!
# What a failure brings down

When a block fails, everything that waits for it, directly or through others, is skipped.  What
that is can be collected with a stack alone: the top of the stack is taken off, and a block taken
off for the first time is recorded and its targets are put on.  A block is put on the stack once
for each way that leads to it, so the stack repeats blocks, and the record must not.

* `Flood`, `Flood.step` — the stack and the record, and one round.
* `Flood.Sweep` — what holds between rounds.  Every round takes one entry off the stack, and an
  entry is put on the stack by one of the recorded blocks, so the rounds can be counted.
* `Flood.Sweep.step` and **`Flood.exists_sweep`** — a round keeps it, and the rounds come to an end.
* **`descendants_of_build`** — the descendants of a block are what the stack collects.
-/

namespace Blockflow

open Relation

open Traversal (Edge Bounded)

/-! ## The stack -/

/-- What is still to be looked at, the next entry first, and what was reached, the latest first. -/
structure Flood where
  pending : List Nat
  reached : List Nat := []
  deriving DecidableEq, Repr

namespace Flood

/-- One round.  The last successor of a node is looked at first. -/
def step (next : Nat → List Nat) (s : Flood) : Flood :=
  match s.pending with
  | [] => s
  | d :: rest =>
    if s.reached.contains d then { s with pending := rest }
    else ⟨(next d).reverse ++ rest, d :: s.reached⟩

/-- The stack and the record after `k` rounds, from some roots. -/
def after (next : Nat → List Nat) (roots : List Nat) (k : Nat) : Flood :=
  (step next)^[k] { pending := roots.reverse }

variable {next : Nat → List Nat} {roots rest : List Nat} {n k d : Nat} {s : Flood}

lemma after_succ : after next roots (k + 1) = step next (after next roots k) :=
  Function.iterate_succ_apply' _ _ _

lemma step_repeated (h : s.pending = d :: rest) (hd : d ∈ s.reached) :
    step next s = ⟨rest, s.reached⟩ := by simp [step, h, hd]

lemma step_new (h : s.pending = d :: rest) (hd : d ∉ s.reached) :
    step next s = ⟨(next d).reverse ++ rest, d :: s.reached⟩ := by simp [step, h, hd]

/-- **What holds after `k` rounds**, each of which found an entry on the stack. -/
structure Sweep (next : Nat → List Nat) (roots : List Nat) (k : Nat) (s : Flood) : Prop where
  nodup : s.reached.Nodup
  rooted : ∀ v ∈ roots, v ∈ s.reached ∨ v ∈ s.pending
  closed : ∀ x ∈ s.reached, ∀ y ∈ next x, y ∈ s.reached ∨ y ∈ s.pending
  sound : ∀ x, x ∈ s.reached ∨ x ∈ s.pending → ∃ v ∈ roots, ReflTransGen (Edge next) v x
  /-- What was taken off the stack and what is on it was put there by the roots and by what was
  reached. -/
  rounds : k + s.pending.length = roots.length + (s.reached.flatMap next).length

lemma sweep_zero : Sweep next roots 0 (after next roots 0) where
  nodup := List.nodup_nil
  rooted := by simp [after]
  closed := by simp [after]
  sound x hx := ⟨x, by simpa [after] using hx, .refl⟩
  rounds := by simp [after]

/-- **A round keeps the invariant**, whether it finds something new or not. -/
theorem Sweep.step (h : Sweep next roots k s) (hs : s.pending ≠ []) :
    Sweep next roots (k + 1) (step next s) := by
  obtain ⟨d, rest, hs⟩ := List.exists_cons_of_ne_nil hs
  have hrounds := h.rounds
  rw [hs, List.length_cons] at hrounds
  have hsound := h.sound
  simp only [hs, List.mem_cons] at hsound
  by_cases hd : d ∈ s.reached
  · -- nothing is lost with the entry, for what it stands for is recorded
    have hkept : ∀ x, x ∈ s.reached ∨ x ∈ s.pending → x ∈ s.reached ∨ x ∈ rest := by
      intro x hx
      rw [hs, List.mem_cons] at hx
      rcases hx with hx | rfl | hx
      · exact .inl hx
      · exact .inl hd
      · exact .inr hx
    rw [step_repeated hs hd]
    exact
      { nodup := h.nodup
        rooted := fun v hv => hkept v (h.rooted v hv)
        closed := fun x hx y hy => hkept y (h.closed x hx y hy)
        sound := fun x hx => hsound x (hx.imp_right .inr)
        rounds := by simp only; omega }
  · have hkept : ∀ x, x ∈ s.reached ∨ x ∈ s.pending →
        x ∈ d :: s.reached ∨ x ∈ (next d).reverse ++ rest := by
      intro x hx
      rw [hs, List.mem_cons] at hx
      simp only [List.mem_cons, List.mem_append]
      tauto
    rw [step_new hs hd]
    refine
      { nodup := List.nodup_cons.mpr ⟨hd, h.nodup⟩
        rooted := fun v hv => hkept v (h.rooted v hv)
        closed := fun x hx y hy => ?_
        sound := fun x hx => ?_
        rounds := ?_ }
    · rcases List.mem_cons.mp hx with rfl | hx
      · simp [hy]
      · exact hkept y (h.closed x hx y hy)
    · simp only [List.mem_cons, List.mem_append, List.mem_reverse] at hx
      rcases hx with (rfl | hx) | hx | hx
      · exact hsound x (.inr (.inl rfl))
      · exact hsound x (.inl hx)
      · obtain ⟨v, hv, hr⟩ := hsound d (.inr (.inl rfl))
        exact ⟨v, hv, hr.tail hx⟩
      · exact hsound x (.inr (.inr hx))
    · simp only [List.length_append, List.length_reverse, List.flatMap_cons]
      omega

/-- When the stack is empty, what was reached is what the roots lead to. -/
lemma Sweep.mem_reached_iff (h : Sweep next roots k s) (hs : s.pending = []) (x : Nat) :
    x ∈ s.reached ↔ ∃ v ∈ roots, ReflTransGen (Edge next) v x := by
  have hall : ∀ y, y ∈ s.reached ∨ y ∈ s.pending → y ∈ s.reached := by simp [hs]
  refine ⟨fun hx => h.sound x (.inl hx), ?_⟩
  rintro ⟨v, hv, hr⟩
  exact Traversal.mem_of_reachable (p := (· ∈ s.reached))
    (fun y hy z hz => hall z (h.closed y hy z hz)) (hall v (h.rooted v hv)) hr

/-- What can be put on the stack is limited by the edges below `n`. -/
lemma Sweep.rounds_le (h : Sweep next roots k s) (hb : Bounded next n)
    (hroots : ∀ v ∈ roots, v < n) :
    k ≤ roots.length + ∑ x ∈ Finset.range n, (next x).length := by
  have hsub : s.reached.toFinset ⊆ Finset.range n := by
    intro x hx
    obtain ⟨v, hv, hr⟩ := h.sound x (.inl (List.mem_toFinset.mp hx))
    exact Finset.mem_range.mpr (Traversal.mem_of_reachable (p := (· < n)) hb (hroots v hv) hr)
  have hsum : (s.reached.flatMap next).length ≤ ∑ x ∈ Finset.range n, (next x).length := by
    rw [List.length_flatMap, ← List.sum_toFinset _ h.nodup]
    exact Finset.sum_le_sum_of_subset hsub
  have hrounds := h.rounds
  omega

/-- **The rounds come to an end**, and not before the last of them is the stack empty. -/
theorem exists_sweep (hb : Bounded next n) (hroots : ∀ v ∈ roots, v < n) :
    ∃ k, Sweep next roots k (after next roots k) ∧ (after next roots k).pending = [] ∧
      ∀ j < k, (after next roots j).pending ≠ [] := by
  by_contra hnever
  -- otherwise every round finds an entry, and there is no limit to the rounds
  have hall : ∀ k, Sweep next roots k (after next roots k) ∧
      ∀ j < k, (after next roots j).pending ≠ [] := by
    intro k
    induction k with
    | zero => exact ⟨sweep_zero, fun j hj => absurd hj (Nat.not_lt_zero j)⟩
    | succ k ih =>
        obtain ⟨hk, hbefore⟩ := ih
        have hne : (after next roots k).pending ≠ [] :=
          fun hnil => hnever ⟨k, hk, hnil, hbefore⟩
        refine ⟨after_succ ▸ hk.step hne, fun j hj => ?_⟩
        rcases Nat.lt_succ_iff_lt_or_eq.mp hj with hj | rfl
        · exact hbefore j hj
        · exact hne
  have := (hall (roots.length + ∑ x ∈ Finset.range n, (next x).length + 1)).1.rounds_le hb hroots
  omega

end Flood

/-! ## The descendants -/

namespace Plan

open Workflow

variable {w : Workflow} {p : Plan}

/-- **The descendants of a block.**  The loop with a stack ends, after one round for each edge that
leaves the block or a descendant of it, and what it has reached then, sorted by rank, are the
descendants.  These are the blocks that connections lead to, each of them once. -/
theorem descendants_of_build (h : Plan.build w = .ok p) (b : Nat) :
    (let rounds := ((b :: p.descendants b).flatMap p.targets).length
      let flood := Flood.after p.targets (p.targets b)
      (∀ k < rounds, (flood k).pending ≠ []) ∧ (flood rounds).pending = [] ∧
        p.descendants b = (flood rounds).reached.mergeSort fun c d => p.rank c ≤ p.rank d) ∧
    (∀ d, d ∈ p.descendants b ↔ TransGen w.Links b d) ∧
    (p.descendants b).Nodup ∧
    (p.descendants b).Pairwise (fun c d => p.rank c < p.rank d) ∧
    b ∉ p.descendants b := by
  have hl := lawful_of_build h
  have hedge : Edge p.targets = fun u v => (u, v) ∈ p.edges := by
    funext u v
    exact propext hl.mem_targets
  have hlinks : w.Links = fun u v => (u, v) ∈ p.edges := by
    funext u v
    exact propext ((links_iff_joins (wellFormed_of_build h).ids).trans (hl.edges u v).symm)
  have hsorted : (p.descendants b).Pairwise fun c d => p.rank c < p.rank d :=
    hl.pairwise_rank_lt.filter _
  have hroots : ∀ d ∈ p.targets b, d < w.blocks.length :=
    fun d hd => (hl.lt_of_edge (hl.mem_targets.mp hd)).2
  obtain ⟨k, hk, hempty, hbefore⟩ := Flood.exists_sweep hl.bounded_targets hroots
  have hmem : ∀ d, d ∈ p.descendants b ↔ d ∈ (Flood.after p.targets (p.targets b) k).reached := by
    intro d
    rw [hk.mem_reached_iff hempty, hl.mem_descendants, hedge, TransGen.head'_iff]
    simp only [hl.mem_targets]
  have heq := hl.eq_mergeSort hsorted hk.nodup hmem fun d hd => hl.descendants_lt hd
  have hrounds : k = ((b :: p.descendants b).flatMap p.targets).length := by
    rw [List.flatMap_cons, List.length_append, heq,
      ((List.mergeSort_perm _ _).flatMap_right _).length_eq, ← hk.rounds, hempty, List.length_nil,
      Nat.add_zero]
  refine ⟨?_, fun d => by rw [hlinks, hl.mem_descendants], hl.nodup.filter _, hsorted,
    hl.not_mem_descendants_self⟩
  rw [← hrounds]
  exact ⟨hbefore, hempty, heq⟩

/-- The last block of the diamond is put on the stack twice, so there are four rounds for its three
descendants. -/
theorem descendants_of_build_diamond :
    let p : Plan := ⟨4, [(2, 1), (2, 3), (1, 0), (3, 0)], [2, 3, 1, 0]⟩
    Plan.build diamond = .ok p ∧ p.descendants 2 = [3, 1, 0] ∧
      (∀ d, d ∈ p.descendants 2 ↔ TransGen diamond.Links 2 d) ∧
      (Flood.after p.targets (p.targets 2) 3).pending = [0] ∧
      Flood.after p.targets (p.targets 2) 4 = ⟨[], [3, 0, 1]⟩ := by
  have h : Plan.build diamond = .ok ⟨4, [(2, 1), (2, 3), (1, 0), (3, 0)], [2, 3, 1, 0]⟩ := by rfl
  exact ⟨h, by decide, (descendants_of_build h 2).2.1, by decide, by decide⟩

end Plan

end Blockflow
