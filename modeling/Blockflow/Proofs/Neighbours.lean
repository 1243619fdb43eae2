import Blockflow.Proofs.Plan

/-!
# The neighbours of a block

A run counts what a block waits for by the length of its list of sources, and what to release by
its list of targets.  One entry too many and the block never starts, one too few and it starts
early.  So the lists of a built plan are described exactly: each holds every neighbour once,
however many connections lead to it, and lists them by rank.

* `Workflow.Links` — a connection between the blocks at two positions.
* `nodup_collectEdges` — several connections between two blocks are one edge.
* **`sources_eq_mergeSort`**, `targets_eq_mergeSort` — the lists are what the edges contribute, one
  after another, sorted by rank.
* `Plan.Tabulated`, **`tabulated_of_build`** — everything at once, for every plan that is built.
-/

namespace Blockflow

namespace Workflow

variable {w : Workflow} {u v : Nat}

/-- Some connection goes from the block at one position to the block at the other. -/
def Links (w : Workflow) (u v : Nat) : Prop :=
  ∃ c ∈ w.connections, ∃ a b, w.blocks[u]? = some a ∧ w.blocks[v]? = some b ∧
    c.source = a.id ∧ c.target = b.id

lemma links_iff_joins (hids : (w.blocks.map Block.id).Nodup) : w.Links u v ↔ w.Joins u v := by
  simp only [Links, Joins, position?_eq_some_iff hids]
  constructor
  · rintro ⟨c, hc, a, b, ha, hb, hs, ht⟩
    exact ⟨c, hc, ⟨a, ha, hs⟩, b, hb, ht⟩
  · rintro ⟨c, hc, ⟨a, ha, hs⟩, b, hb, ht⟩
    exact ⟨c, hc, a, b, ha, hb, hs, ht⟩

end Workflow

namespace Plan

open Workflow

variable {w : Workflow} {p : Plan}

/-! ## Distinct edges -/

/-- **Several connections between two blocks are one edge.** -/
lemma nodup_collectEdges (cs : List Connection) : ∀ (edges es : List (Nat × Nat)),
    collectEdges w edges cs = .ok es → edges.Nodup → es.Nodup := by
  induction cs with
  | nil =>
      intro edges es h hedges
      cases h
      exact hedges
  | cons c cs ih =>
      intro edges es h hedges
      obtain ⟨u, v, -, -, -, h⟩ := collectEdges_cons h
      refine ih _ es h ?_
      split_ifs with hold
      · exact hedges
      · have hnew : (u, v) ∉ edges := by simpa using hold
        simpa [List.nodup_append] using ⟨hedges, fun a b hab => by rintro rfl rfl; exact hnew hab⟩

lemma nodup_edges_of_build (h : Plan.build w = .ok p) : p.edges.Nodup := by
  obtain ⟨-, -, hc, -, -⟩ := build_eq_ok h
  exact nodup_collectEdges w.connections [] p.edges hc List.nodup_nil

/-- Distinct edges into one node have distinct sources. -/
lemma nodup_predecessors {edges : List (Nat × Nat)} (h : edges.Nodup) (v : Nat) :
    (predecessors edges v).Nodup := by
  refine (h.filter _).map_on ?_
  rintro ⟨a, b⟩ ha ⟨c, d⟩ hc hac
  simp_all

lemma nodup_successors {edges : List (Nat × Nat)} (h : edges.Nodup) (v : Nat) :
    (successors edges v).Nodup := by
  refine (h.filter _).map_on ?_
  rintro ⟨a, b⟩ ha ⟨c, d⟩ hc hbd
  simp_all

/-! ## Lists by rank -/

namespace Lawful

variable (h : Lawful w p)

include h

lemma getElem?_order_iff {k b : Nat} :
    p.order[k]? = some b ↔ b < w.blocks.length ∧ p.rank b = k := by
  rw [List.getElem?_eq_some_iff]
  constructor
  · rintro ⟨hk, rfl⟩
    exact ⟨h.mem_order.mp (List.getElem_mem hk), h.nodup.idxOf_getElem k hk⟩
  · rintro ⟨hb, rfl⟩
    have hlt := List.idxOf_lt_length_of_mem (h.mem_order.mpr hb)
    exact ⟨hlt, List.getElem_idxOf hlt⟩

/-- The order is sorted by rank. -/
lemma pairwise_rank_lt : p.order.Pairwise fun a b => p.rank a < p.rank b := by
  rw [List.pairwise_iff_getElem]
  intro i j hi hj hij
  rwa [rank, rank, h.nodup.idxOf_getElem i hi, h.nodup.idxOf_getElem j hj]

lemma sorted_sources (b : Nat) : (p.sources b).Pairwise fun u v => p.rank u < p.rank v :=
  h.pairwise_rank_lt.filter _

lemma sorted_targets (b : Nat) : (p.targets b).Pairwise fun u v => p.rank u < p.rank v :=
  h.pairwise_rank_lt.filter _

/-- Nodes in the order of their ranks are the same nodes sorted by rank, wherever they come
from. -/
lemma eq_mergeSort {l l' : List Nat} (hl : l.Pairwise fun u v => p.rank u < p.rank v)
    (hnodup : l'.Nodup) (hmem : ∀ u, u ∈ l ↔ u ∈ l') (hlt : ∀ u ∈ l, u < w.blocks.length) :
    l = l'.mergeSort fun u v => p.rank u ≤ p.rank v := by
  have hperm : l.Perm (l'.mergeSort fun u v => p.rank u ≤ p.rank v) := by
    refine List.Perm.trans ?_ (List.mergeSort_perm l' _).symm
    rw [List.perm_ext_iff_of_nodup (hl.imp fun huv => by rintro rfl; exact huv.false) hnodup]
    exact hmem
  have hsorted : (l'.mergeSort fun u v => p.rank u ≤ p.rank v).Pairwise
      fun u v => p.rank u ≤ p.rank v := by
    have hdecided : (l'.mergeSort fun u v => p.rank u ≤ p.rank v).Pairwise
        fun u v => decide (p.rank u ≤ p.rank v) = true :=
      List.pairwise_mergeSort (fun a b c => by simpa using le_trans)
        (fun a b => by simpa using le_total _ _) l'
    simpa using hdecided
  refine List.Perm.eq_of_pairwise (fun a b ha hb hab hba => ?_) (hl.imp le_of_lt) hsorted hperm
  refine (List.idxOf_inj (h.mem_order.mpr (hlt a ha))).mp (le_antisymm hab hba)

end Lawful

/-- **The sources of a block are what the edges contribute, one after another, sorted by rank.** -/
theorem sources_eq_mergeSort (h : Plan.build w = .ok p) (b : Nat) :
    p.sources b = (predecessors p.edges b).mergeSort fun u v => p.rank u ≤ p.rank v := by
  have hl := lawful_of_build h
  refine hl.eq_mergeSort (hl.sorted_sources b) (nodup_predecessors (nodup_edges_of_build h) b)
    (fun u => ?_) fun u hu => ?_
  · rw [hl.mem_sources, mem_predecessors]
  · exact (hl.lt_of_edge (hl.mem_sources.mp hu)).1

/-- The targets of a block, likewise. -/
theorem targets_eq_mergeSort (h : Plan.build w = .ok p) (b : Nat) :
    p.targets b = (successors p.edges b).mergeSort fun u v => p.rank u ≤ p.rank v := by
  have hl := lawful_of_build h
  refine hl.eq_mergeSort (hl.sorted_targets b) (nodup_successors (nodup_edges_of_build h) b)
    (fun u => ?_) fun u hu => ?_
  · rw [hl.mem_targets, mem_successors]
  · exact (hl.lt_of_edge (hl.mem_targets.mp hu)).2

/-! ## Built plans -/

/-- **What the tables of a plan hold.** -/
structure Tabulated (w : Workflow) (p : Plan) : Prop where
  perm : p.order.Perm (List.range w.blocks.length)
  /-- The rank of a block is its place in the order. -/
  rank : ∀ k b, p.order[k]? = some b ↔ b < w.blocks.length ∧ p.rank b = k
  listed : ∀ b,
    p.sources b = ((predecessors p.edges b).mergeSort fun u v => p.rank u ≤ p.rank v) ∧
      p.targets b = (successors p.edges b).mergeSort fun u v => p.rank u ≤ p.rank v
  sources : ∀ u v, u ∈ p.sources v ↔ w.Links u v
  targets : ∀ u v, v ∈ p.targets u ↔ w.Links u v
  nodup : ∀ b, (p.sources b).Nodup ∧ (p.targets b).Nodup
  sorted : ∀ b, (p.sources b).Pairwise (fun u v => p.rank u < p.rank v) ∧
    (p.targets b).Pairwise fun u v => p.rank u < p.rank v
  forward : ∀ u v, w.Links u v → p.rank u < p.rank v

/-- **The tables of a built plan** hold every neighbour exactly once, by rank, and every connection
leads to a higher rank. -/
theorem tabulated_of_build (h : Plan.build w = .ok p) : Tabulated w p := by
  have hl := lawful_of_build h
  have hlinks : ∀ u v, w.Links u v ↔ (u, v) ∈ p.edges := by
    intro u v
    rw [links_iff_joins (wellFormed_of_build h).ids, hl.edges]
  exact
    { perm := hl.perm
      rank := fun _ _ => hl.getElem?_order_iff
      listed := fun b => ⟨sources_eq_mergeSort h b, targets_eq_mergeSort h b⟩
      sources := fun u v => by rw [hl.mem_sources, hlinks]
      targets := fun u v => by rw [hl.mem_targets, hlinks]
      nodup := fun b => ⟨hl.nodup_sources b, hl.nodup_targets b⟩
      sorted := fun b => ⟨hl.sorted_sources b, hl.sorted_targets b⟩
      forward := fun u v huv => hl.rank_lt ((hlinks u v).mp huv) }

/-- A diamond whose last block stands first and has two connections from one of its sources. -/
def diamond : Workflow :=
  { blocks := ["join", "left", "fork", "right"].map fun id =>
      { id, normalizedId := id, config := .variable {} }
    connections :=
      [.between "fork" "left", .between "fork" "right", .between "left" "join",
        (Connection.between "left" "join").joining "value" "other", .between "right" "join"] }

theorem tabulated_of_build_diamond :
    let p : Plan := ⟨4, [(2, 1), (2, 3), (1, 0), (3, 0)], [2, 3, 1, 0]⟩
    Plan.build diamond = .ok p ∧ Tabulated diamond p ∧ p.sources 0 = [3, 1] ∧
      p.targets 2 = [3, 1] := by
  have h : Plan.build diamond = .ok ⟨4, [(2, 1), (2, 3), (1, 0), (3, 0)], [2, 3, 1, 0]⟩ := by rfl
  exact ⟨h, tabulated_of_build h, by decide, by decide⟩

end Plan

end Blockflow
