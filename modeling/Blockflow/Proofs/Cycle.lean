import Blockflow.Proofs.Plan

/-!
# The block at which a cycle is reported

A search of a graph with cycles leaves an order too, though no order can put every block before
those that it feeds.  The first block in it that is fed from behind is looked for, and the block
that feeds it is reported.  An edge from behind leads to what was finished later, so it closes a
cycle, and its source lies on the cycle, not merely in front of one or behind one.

* `exists_of_misplaced?` — what a misplaced node is.
* `transGen_of_misplaced?` — it leads to itself.
* **`build_reports_cycle`** — which workflows are rejected for a cycle, and what is reported.
-/

namespace Blockflow

open Relation

namespace Plan

open Workflow

variable {w : Workflow} {edges : List (Nat × Nat)} {u : Nat}

/-- A misplaced node feeds one that does not stand behind it. -/
lemma exists_of_misplaced? (l : List Nat) : ∀ before : List Nat,
    misplaced? edges before l = some u →
      ∃ front v back, l = front ++ v :: back ∧ (u, v) ∈ edges ∧ u ∉ before ++ front ++ [v] := by
  induction l with
  | nil => intro before h; cases h
  | cons v l ih =>
      intro before h
      rw [misplaced?] at h
      split at h
      · next x hx =>
          cases h
          have hedge := mem_predecessors.mp (List.mem_of_find?_eq_some hx)
          have hnew := List.find?_some hx
          refine ⟨[], v, l, rfl, hedge, ?_⟩
          simpa [and_comm] using hnew
      · obtain ⟨front, x, back, rfl, hedge, hnew⟩ := ih _ h
        refine ⟨v :: front, x, back, rfl, hedge, ?_⟩
        simp only [List.mem_append, List.mem_cons, not_or] at hnew ⊢
        tauto

/-- **A misplaced node lies on a cycle.** -/
theorem transGen_of_misplaced? (hc : collectEdges w [] w.connections = .ok edges)
    (hm : misplaced? edges [] (searchOrder w.blocks.length edges) = some u) :
    TransGen w.Joins u u := by
  have hjoins := mem_iff_joins hc
  have hbounded := bounded_successors hjoins
  obtain ⟨front, v, back, horder, hedge, hfront⟩ := exists_of_misplaced? _ [] hm
  -- every position is in the order, so the node stands behind the one that it feeds
  have hlt : u < w.blocks.length := by
    obtain ⟨c, -, hu, -⟩ := (hjoins u v).mp hedge
    exact position?_lt hu
  have hmem : u ∈ searchOrder w.blocks.length edges :=
    (Traversal.finished_visitAll_range hbounded).mem_iff.mpr (List.mem_range.mpr hlt)
  have hback : u ∈ back := by
    rw [horder] at hmem
    simp only [List.nil_append, List.mem_append, List.mem_cons, List.not_mem_nil] at hmem hfront
    tauto
  have hsorted := Traversal.visitAll_sorted hbounded
  rw [show (Traversal.visitAll _ _ _).finished = _ from horder] at hsorted
  have hpair := List.rel_of_pairwise_cons (List.pairwise_append.mp hsorted).2.1 hback
  rw [← edge_eq_joins hc]
  exact TransGen.head (edge_successors.mpr hedge) (hpair (mem_successors.mpr hedge))

/-- Where everything else is in order, a cycle is found. -/
lemma exists_build_eq_cycle (h : w.Drawn) {a : String} (ha : TransGen w.Feeds a a) :
    ∃ id, Plan.build w = .error (.cycle id) := by
  obtain ⟨hne, hb, edges, hc⟩ := drawn_iff.mp h
  have hbuild := build_of_passes hne hb hc
  cases hm : misplaced? edges [] (searchOrder w.blocks.length edges) with
  | none =>
      rw [hm] at hbuild
      exact absurd ha ((wellFormed_of_build hbuild).acyclic a)
  | some u =>
      rw [hm] at hbuild
      exact ⟨_, hbuild⟩

/-- **A workflow is rejected for a cycle** exactly if it has one and nothing else is wrong with its
graph, and the block that is reported lies on a cycle. -/
theorem build_reports_cycle (w : Workflow) :
    (∀ id, Plan.build w = .error (.cycle id) →
      id ∈ w.blocks.map Block.id ∧ TransGen w.Feeds id id) ∧
    ((∃ id, Plan.build w = .error (.cycle id)) ↔ w.Drawn ∧ ∃ a, TransGen w.Feeds a a) := by
  have hreported : ∀ id, Plan.build w = .error (.cycle id) →
      w.Drawn ∧ id ∈ w.blocks.map Block.id ∧ TransGen w.Feeds id id := by
    intro id h
    rcases build_eq_error h with ⟨text, heq⟩ | ⟨hne, hb, edges, u, hc, hm, heq⟩
    · cases heq
    · cases heq
      have hcycle := transGen_of_misplaced? hc hm
      obtain ⟨v, ⟨c, -, hu, -⟩, -⟩ := TransGen.head'_iff.mp hcycle
      refine ⟨drawn_iff.mpr ⟨hne, hb, edges, hc⟩, ?_, transGen_feeds_of_joins hcycle⟩
      rw [position?_id hu]
      exact exists_position?_iff.mp ⟨u, hu⟩
  refine ⟨fun id h => (hreported id h).2, ?_, fun ⟨hd, a, ha⟩ => exists_build_eq_cycle hd ha⟩
  rintro ⟨a, h⟩
  exact ⟨(hreported a h).1, a, (hreported a h).2.2⟩

/-- Two cycles with a block in front of them and a block behind them. -/
def tailed : Workflow :=
  { blocks := ["in", "front", "left", "right", "out"].map fun id =>
      { id, normalizedId := id, config := .variable {} }
    connections :=
      [.between "in" "front", .between "front" "out", .between "front" "left",
        .between "left" "right", .between "right" "left", .between "right" "front",
        .between "right" "out"] }

theorem build_reports_cycle_tailed :
    Plan.build tailed = .error (.cycle "right") ∧
      "right" ∈ tailed.blocks.map Block.id ∧ TransGen tailed.Feeds "right" "right" := by
  have h : Plan.build tailed = .error (.cycle "right") := by rfl
  exact ⟨h, (build_reports_cycle tailed).1 "right" h⟩

end Plan

end Blockflow
