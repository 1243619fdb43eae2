import Blockflow.Proofs.Search

/-!
# Which workflows have a plan

A plan is built in three passes, over the blocks, over the connections, and over the order that
the search leaves.  Each pass is described by what it accepts, and the passes together by one
condition on the workflow that does not mention positions, orders or searches.

* `Workflow.WellFormed` — the condition: named blocks, distinct ids and normalized ids,
  connections between different blocks of the workflow (`Workflow.Drawn`), and no cycle of
  connections.
* **`build_ok_iff_wellFormed`** — a plan is built exactly for the well-formed workflows, and
  every other one is rejected with an error of kind `validation`.
* `Plan.Lawful` — what a built plan is: an order of all positions in which every edge points
  forward, over the edges that the connections draw.  All later facts about plans start from
  **`lawful_of_build`**.
* `mem_sources`, `mem_targets`, `mem_descendants` — what is read off a lawful plan.
-/

namespace Blockflow

open Relation

namespace Workflow

/-- A connection leads from one block to the other. -/
def Feeds (w : Workflow) (a b : String) : Prop :=
  ∃ c ∈ w.connections, c.source = a ∧ c.target = b

/-- **What a workflow has to be for a plan to exist.** -/
structure WellFormed (w : Workflow) : Prop where
  nonempty : w.blocks ≠ []
  named : ∀ b ∈ w.blocks, b.id ≠ ""
  ids : (w.blocks.map Block.id).Nodup
  normalizedIds : (w.blocks.map Block.normalizedId).Nodup
  source_mem : ∀ c ∈ w.connections, c.source ∈ w.blocks.map Block.id
  target_mem : ∀ c ∈ w.connections, c.target ∈ w.blocks.map Block.id
  loopless : ∀ c ∈ w.connections, c.source ≠ c.target
  acyclic : ∀ a, ¬ TransGen w.Feeds a a

/-- **A workflow whose connections draw a graph on its blocks**, with cycles or without. -/
structure Drawn (w : Workflow) : Prop where
  nonempty : w.blocks ≠ []
  named : ∀ b ∈ w.blocks, b.id ≠ ""
  ids : (w.blocks.map Block.id).Nodup
  normalizedIds : (w.blocks.map Block.normalizedId).Nodup
  source_mem : ∀ c ∈ w.connections, c.source ∈ w.blocks.map Block.id
  target_mem : ∀ c ∈ w.connections, c.target ∈ w.blocks.map Block.id
  loopless : ∀ c ∈ w.connections, c.source ≠ c.target

lemma wellFormed_iff {w : Workflow} :
    w.WellFormed ↔ w.Drawn ∧ ∀ a, ¬ TransGen w.Feeds a a := by
  constructor
  · exact fun h => ⟨{ h with }, h.acyclic⟩
  · exact fun ⟨h, hacyclic⟩ => { h with acyclic := hacyclic }

/-! ## Positions -/

/-- The position of the first block with an id. -/
def position? (w : Workflow) (id : String) : Option Nat := w.blocks.findIdx? fun b => b.id = id

variable {w : Workflow} {a b : String} {i j : Nat}

lemma position?_lt (h : w.position? a = some i) : i < w.blocks.length :=
  (List.findIdx?_eq_some_iff_getElem.mp h).1

/-- The block at the position of an id has that id. -/
lemma position?_id (h : w.position? a = some i) : (w.blocks[i]?).map Block.id = some a := by
  obtain ⟨hi, hid, _⟩ := List.findIdx?_eq_some_iff_getElem.mp h
  simpa [List.getElem?_eq_getElem hi] using hid

lemma exists_position?_iff : (∃ i, w.position? a = some i) ↔ a ∈ w.blocks.map Block.id := by
  rw [← Option.isSome_iff_exists, position?, List.findIdx?_isSome]
  simp

/-- Positions tell ids apart. -/
lemma position?_inj (ha : w.position? a = some i) (hb : w.position? b = some i) : a = b :=
  Option.some.inj ((position?_id ha).symm.trans (position?_id hb))

/-- With distinct ids a block stands at the position of its id. -/
lemma position?_of_getElem? {x : Block} (hids : (w.blocks.map Block.id).Nodup)
    (h : w.blocks[i]? = some x) : w.position? x.id = some i := by
  obtain ⟨hi, rfl⟩ := List.getElem?_eq_some_iff.mp h
  refine List.findIdx?_eq_some_iff_getElem.mpr ⟨hi, by simp, fun j hj => ?_⟩
  intro heq
  have hlt : j < w.blocks.length := lt_trans hj hi
  have hltId : j < (w.blocks.map Block.id).length := by simpa using hlt
  have hiId : i < (w.blocks.map Block.id).length := by simpa using hi
  have hij : (w.blocks.map Block.id)[j] = (w.blocks.map Block.id)[i] := by simpa using heq
  exact absurd ((hids.getElem_inj_iff).mp hij) (by omega)

/-- With distinct ids an id names the block at a position and no other. -/
lemma position?_eq_some_iff (hids : (w.blocks.map Block.id).Nodup) :
    w.position? a = some i ↔ ∃ x, w.blocks[i]? = some x ∧ a = x.id := by
  constructor
  · intro h
    obtain ⟨x, hx, hid⟩ := Option.map_eq_some_iff.mp (position?_id h)
    exact ⟨x, hx, hid.symm⟩
  · rintro ⟨x, hx, rfl⟩
    exact position?_of_getElem? hids hx

/-- A connection leads from the block at one position to the block at the other. -/
def Joins (w : Workflow) (u v : Nat) : Prop :=
  ∃ c ∈ w.connections, w.position? c.source = some u ∧ w.position? c.target = some v

/-- A cycle of positions is a cycle of blocks. -/
lemma transGen_feeds_of_joins {u v : Nat} (h : TransGen w.Joins u v) :
    TransGen w.Feeds (((w.blocks[u]?).map Block.id).getD "")
      (((w.blocks[v]?).map Block.id).getD "") := by
  refine TransGen.lift (fun i => ((w.blocks[i]?).map Block.id).getD "") ?_ u v h
  rintro u v ⟨c, hc, hu, hv⟩
  exact ⟨c, hc, by simp [position?_id hu], by simp [position?_id hv]⟩

/-- A cycle of blocks is a cycle of positions, if the connections name blocks. -/
lemma transGen_joins_of_feeds (hs : ∀ c ∈ w.connections, c.source ∈ w.blocks.map Block.id)
    (ht : ∀ c ∈ w.connections, c.target ∈ w.blocks.map Block.id)
    (h : TransGen w.Feeds a b) :
    TransGen w.Joins ((w.position? a).getD 0) ((w.position? b).getD 0) := by
  refine TransGen.lift (fun a => (w.position? a).getD 0) ?_ a b h
  rintro a b ⟨c, hc, rfl, rfl⟩
  obtain ⟨u, hu⟩ := exists_position?_iff.mpr (hs c hc)
  obtain ⟨v, hv⟩ := exists_position?_iff.mpr (ht c hc)
  exact ⟨c, hc, by simp [hu], by simp [hv]⟩

end Workflow

namespace Plan

open Workflow

variable {w : Workflow} {p : Plan}

/-! ## The pass over the blocks -/

/-- The pass over the blocks accepts what has names that nothing before has. -/
lemma checkBlocks_eq_ok_iff (bs : List Block) : ∀ (ids normalized : List String) (k : Nat),
    checkBlocks ids normalized k bs = .ok () ↔
      (∀ b ∈ bs, b.id ≠ "") ∧ (bs.map Block.id).Nodup ∧ (∀ b ∈ bs, b.id ∉ ids) ∧
        (bs.map Block.normalizedId).Nodup ∧ ∀ b ∈ bs, b.normalizedId ∉ normalized := by
  induction bs with
  | nil => intro ids normalized k; simp [checkBlocks]
  | cons b bs ih =>
      intro ids normalized k
      rw [checkBlocks]
      split_ifs with hname hid hnorm
      · have : b.id = "" := String.isEmpty_iff.mp hname
        simp [this]
      · have : b.id ∈ ids := by simpa using hid
        simp [this]
      · have : b.normalizedId ∈ normalized := by simpa using hnorm
        simp [this]
      · have h₁ : b.id ≠ "" := fun h => hname (String.isEmpty_iff.mpr h)
        have h₂ : b.id ∉ ids := by simpa using hid
        have h₃ : b.normalizedId ∉ normalized := by simpa using hnorm
        rw [ih]
        simp only [List.map_cons, List.nodup_cons, List.forall_mem_cons]
        simp only [List.mem_cons, List.mem_map, not_or, not_exists, not_and]
        constructor
        · rintro ⟨g₁, g₂, g₃, g₄, g₅⟩
          exact ⟨⟨h₁, g₁⟩, ⟨fun x hx => (g₃ x hx).1, g₂⟩, ⟨h₂, fun x hx => (g₃ x hx).2⟩,
            ⟨fun x hx => (g₅ x hx).1, g₄⟩, h₃, fun x hx => (g₅ x hx).2⟩
        · rintro ⟨⟨_, g₁⟩, ⟨g₂, g₂'⟩, ⟨_, g₃⟩, ⟨g₄, g₄'⟩, _, g₅⟩
          exact ⟨g₁, g₂', fun x hx => ⟨g₂ x hx, g₃ x hx⟩, g₄', fun x hx => ⟨g₄ x hx, g₅ x hx⟩⟩

lemma checkBlocks_eq_error (bs : List Block) : ∀ (ids normalized : List String) (k : Nat)
    {e : Error}, checkBlocks ids normalized k bs = .error e → ∃ text, e = .validation text := by
  induction bs with
  | nil => intro ids normalized k e h; simp [checkBlocks] at h
  | cons b bs ih =>
      intro ids normalized k e h
      rw [checkBlocks] at h
      split_ifs at h
      · cases h; exact ⟨_, rfl⟩
      · cases h; exact ⟨_, rfl⟩
      · cases h; exact ⟨_, rfl⟩
      · exact ih _ _ _ h

/-! ## The pass over the connections -/

/-- A connection that draws an edge: between different blocks of the workflow. -/
def Connects (w : Workflow) (c : Connection) : Prop :=
  ∃ u v, w.position? c.source = some u ∧ w.position? c.target = some v ∧ u ≠ v

lemma endpoint_of_position? {c : Connection} {id : String} {i : Nat}
    (h : w.position? id = some i) : endpoint w c id = .ok i := by
  rw [position?] at h
  simp [endpoint, h]

lemma endpoint_eq_ok_iff {c : Connection} {id : String} {i : Nat} :
    endpoint w c id = .ok i ↔ w.position? id = some i := by
  refine ⟨fun h => ?_, endpoint_of_position?⟩
  rw [endpoint] at h
  split at h
  · next j hj => cases h; exact hj
  · cases h

lemma endpoint_eq_error {c : Connection} {id : String} {e : Error}
    (h : endpoint w c id = .error e) : ∃ text, e = .validation text := by
  rw [endpoint] at h
  split at h
  · cases h
  · cases h; exact ⟨_, rfl⟩

/-- What one connection does to the edges found so far. -/
lemma collectEdges_cons {edges es : List (Nat × Nat)} {c : Connection} {cs : List Connection}
    (h : collectEdges w edges (c :: cs) = .ok es) :
    ∃ u v, w.position? c.source = some u ∧ w.position? c.target = some v ∧ u ≠ v ∧
      collectEdges w (if edges.contains (u, v) then edges else edges ++ [(u, v)]) cs = .ok es := by
  rw [collectEdges] at h
  cases hu : endpoint w c c.source with
  | error e => rw [hu] at h; cases h
  | ok u =>
      cases hv : endpoint w c c.target with
      | error e => rw [hu, hv] at h; cases h
      | ok v =>
          rw [hu, hv] at h
          simp only [bind, Except.bind] at h
          by_cases hloop : u = v
          · rw [if_pos hloop] at h
            cases h
          · rw [if_neg hloop] at h
            refine ⟨u, v, endpoint_eq_ok_iff.mp hu, endpoint_eq_ok_iff.mp hv, hloop, ?_⟩
            split_ifs at h ⊢ with hold
            · exact h
            · exact h

/-- **The pass over the connections**: each of them draws an edge, and these are the edges. -/
lemma collectEdges_spec (cs : List Connection) : ∀ (edges es : List (Nat × Nat)),
    collectEdges w edges cs = .ok es →
      (∀ c ∈ cs, Connects w c) ∧
      ∀ u v, (u, v) ∈ es ↔ (u, v) ∈ edges ∨
        ∃ c ∈ cs, w.position? c.source = some u ∧ w.position? c.target = some v := by
  induction cs with
  | nil =>
      intro edges es h
      cases h
      simp
  | cons c cs ih =>
      intro edges es h
      obtain ⟨a, b, ha, hb, hne, h⟩ := collectEdges_cons h
      obtain ⟨hcs, hes⟩ := ih _ es h
      refine ⟨List.forall_mem_cons.mpr ⟨⟨a, b, ha, hb, hne⟩, hcs⟩, fun u v => ?_⟩
      have hmem : (u, v) ∈ (if edges.contains (a, b) then edges else edges ++ [(a, b)]) ↔
          (u, v) ∈ edges ∨ (a = u ∧ b = v) := by
        split_ifs with hold
        · refine ⟨Or.inl, ?_⟩
          rintro (hmem | ⟨rfl, rfl⟩)
          · exact hmem
          · simpa using hold
        · simp [eq_comm]
      have hhead : (w.position? c.source = some u ∧ w.position? c.target = some v) ↔
          (a = u ∧ b = v) := by
        simp [ha, hb]
      rw [hes, hmem, or_assoc, ← hhead]
      simp only [List.exists_mem_cons_iff]

/-- The edges that are found are the connections between positions. -/
lemma mem_iff_joins {edges : List (Nat × Nat)} (hc : collectEdges w [] w.connections = .ok edges)
    (u v : Nat) : (u, v) ∈ edges ↔ w.Joins u v := by
  simpa [Joins] using (collectEdges_spec w.connections [] edges hc).2 u v

lemma exists_collectEdges (cs : List Connection) : ∀ (edges : List (Nat × Nat)),
    (∀ c ∈ cs, Connects w c) → ∃ es, collectEdges w edges cs = .ok es := by
  induction cs with
  | nil => exact fun edges _ => ⟨edges, rfl⟩
  | cons c cs ih =>
      intro edges h
      obtain ⟨⟨u, v, hu, hv, hne⟩, hcs⟩ := List.forall_mem_cons.mp h
      rw [collectEdges, endpoint_of_position? hu, endpoint_of_position? hv]
      simp only [bind, Except.bind, hne, if_false]
      split_ifs
      · exact ih edges hcs
      · exact ih _ hcs

lemma collectEdges_eq_error (cs : List Connection) : ∀ (edges : List (Nat × Nat)) {e : Error},
    collectEdges w edges cs = .error e → ∃ text, e = .validation text := by
  induction cs with
  | nil => intro edges e h; cases h
  | cons c cs ih =>
      intro edges e h
      rw [collectEdges] at h
      cases hu : endpoint w c c.source with
      | error f => rw [hu] at h; cases h; exact endpoint_eq_error hu
      | ok u =>
          cases hv : endpoint w c c.target with
          | error f => rw [hu, hv] at h; cases h; exact endpoint_eq_error hv
          | ok v =>
              rw [hu, hv] at h
              simp only [bind, Except.bind] at h
              split_ifs at h
              · cases h; exact ⟨_, rfl⟩
              · exact ih _ h
              · exact ih _ h

/-! ## The pass over the order -/

lemma mem_successors {edges : List (Nat × Nat)} {u v : Nat} :
    v ∈ successors edges u ↔ (u, v) ∈ edges := by
  simp [successors]

lemma mem_predecessors {edges : List (Nat × Nat)} {u v : Nat} :
    u ∈ predecessors edges v ↔ (u, v) ∈ edges := by
  simp [predecessors]

lemma misplaced?_cons_eq_none_iff {edges : List (Nat × Nat)} {before l : List Nat} {v : Nat} :
    misplaced? edges before (v :: l) = none ↔
      (∀ u, (u, v) ∈ edges → u ∈ v :: before) ∧ misplaced? edges (v :: before) l = none := by
  rw [misplaced?]
  split
  · next u hu =>
      have := List.find?_some hu
      simp only [reduceCtorEq, false_iff, not_and]
      intro hall
      have hmem := hall u (mem_predecessors.mp (List.mem_of_find?_eq_some hu))
      simp_all
  · next hnone =>
      rw [iff_and_self]
      intro _ u hu
      have := List.find?_eq_none.mp hnone u (mem_predecessors.mpr hu)
      simp only [Bool.not_eq_true, Bool.not_eq_false', List.contains_iff_mem] at this
      simpa using this

/-- Where nothing is misplaced no edge points backwards. -/
lemma pairwise_of_misplaced?_eq_none {edges : List (Nat × Nat)} (l : List Nat) :
    ∀ before : List Nat, misplaced? edges before l = none → (before ++ l).Nodup →
      l.Pairwise fun u v => (v, u) ∉ edges := by
  induction l with
  | nil => exact fun _ _ _ => List.Pairwise.nil
  | cons v l ih =>
      intro before h hnodup
      obtain ⟨hv, hrest⟩ := misplaced?_cons_eq_none_iff.mp h
      have hperm : (before ++ v :: l).Perm ((v :: before) ++ l) := List.perm_middle
      have hnodup' : ((v :: before) ++ l).Nodup := hperm.nodup_iff.mp hnodup
      refine List.pairwise_cons.mpr ⟨fun u hu hedge => ?_, ih _ hrest hnodup'⟩
      exact List.disjoint_of_nodup_append hnodup' (hv u hedge) hu

/-- Where no edge points backwards nothing is misplaced. -/
lemma misplaced?_eq_none_of_pairwise {edges : List (Nat × Nat)} (l : List Nat) :
    ∀ before : List Nat, (∀ v ∈ l, ∀ u, (u, v) ∈ edges → u ∈ before ++ l) →
      (l.Pairwise fun u v => (v, u) ∉ edges) → misplaced? edges before l = none := by
  induction l with
  | nil => exact fun _ _ _ => rfl
  | cons v l ih =>
      intro before hmem hpair
      obtain ⟨hv, hpair⟩ := List.pairwise_cons.mp hpair
      refine misplaced?_cons_eq_none_iff.mpr ⟨fun u hu => ?_, ih _ (fun x hx u hu => ?_) hpair⟩
      · rcases List.mem_append.mp (hmem v List.mem_cons_self u hu) with h | h
        · exact List.mem_cons_of_mem v h
        · rcases List.mem_cons.mp h with rfl | h
          · exact List.mem_cons_self
          · exact absurd hu (hv u h)
      · have := hmem x (List.mem_cons_of_mem v hx) u hu
        simp only [List.mem_append, List.mem_cons] at this ⊢
        tauto

/-! ## Built plans -/

/-- **What a built plan is.** -/
structure Lawful (w : Workflow) (p : Plan) : Prop where
  size : p.size = w.blocks.length
  perm : p.order.Perm (List.range w.blocks.length)
  edges : ∀ u v, (u, v) ∈ p.edges ↔ w.Joins u v
  loopless : ∀ u, (u, u) ∉ p.edges
  forward : p.order.Pairwise fun u v => (v, u) ∉ p.edges

/-- The edge relation of a list of edges, as the search walks along it. -/
lemma edge_successors {edges : List (Nat × Nat)} {u v : Nat} :
    Traversal.Edge (successors edges) u v ↔ (u, v) ∈ edges := mem_successors

/-- When the passes over the blocks and the connections accept, the pass over the order decides. -/
lemma build_of_passes {edges : List (Nat × Nat)} (hne : w.blocks ≠ [])
    (hb : checkBlocks [] [] 0 w.blocks = .ok ())
    (hc : collectEdges w [] w.connections = .ok edges) :
    Plan.build w =
      match misplaced? edges [] (searchOrder w.blocks.length edges) with
      | some u => .error (.cycle (((w.blocks[u]?).map Block.id).getD ""))
      | none => .ok ⟨w.blocks.length, edges, searchOrder w.blocks.length edges⟩ := by
  simp only [build, List.isEmpty_iff, hne, hb, hc, if_false, bind, Except.bind, pure, Except.pure]
  rfl

/-- What the three passes find when all of them accept. -/
lemma build_eq_ok (h : Plan.build w = .ok p) :
    w.blocks ≠ [] ∧ checkBlocks [] [] 0 w.blocks = .ok () ∧
      collectEdges w [] w.connections = .ok p.edges ∧
      misplaced? p.edges [] (searchOrder w.blocks.length p.edges) = none ∧
      p = ⟨w.blocks.length, p.edges, searchOrder w.blocks.length p.edges⟩ := by
  rw [build] at h
  by_cases hne : w.blocks.isEmpty
  · rw [if_pos hne] at h
    cases h
  · rw [if_neg hne] at h
    cases hb : checkBlocks [] [] 0 w.blocks with
    | error e => simp [hb, bind, Except.bind] at h
    | ok _ =>
        cases hc : collectEdges w [] w.connections with
        | error e => simp [hb, hc, bind, Except.bind] at h
        | ok edges =>
            simp only [hb, hc, bind, Except.bind, pure, Except.pure] at h
            split at h
            · cases h
            · next hm =>
                cases h
                exact ⟨by simpa using hne, rfl, rfl, hm, rfl⟩

/-- What the three passes find when one of them does not accept: something to be put right, or, when
the first two accept, a block that should have come earlier. -/
lemma build_eq_error {e : Error} (h : Plan.build w = .error e) :
    (∃ text, e = .validation text) ∨ w.blocks ≠ [] ∧ checkBlocks [] [] 0 w.blocks = .ok () ∧
      ∃ edges u, collectEdges w [] w.connections = .ok edges ∧
        misplaced? edges [] (searchOrder w.blocks.length edges) = some u ∧
        e = .cycle (((w.blocks[u]?).map Block.id).getD "") := by
  rw [build] at h
  by_cases hne : w.blocks.isEmpty
  · rw [if_pos hne] at h
    cases h
    exact .inl ⟨_, rfl⟩
  · rw [if_neg hne] at h
    cases hb : checkBlocks [] [] 0 w.blocks with
    | error f =>
        simp only [hb, bind, Except.bind] at h
        cases h
        exact .inl (checkBlocks_eq_error w.blocks [] [] 0 hb)
    | ok _ =>
        cases hc : collectEdges w [] w.connections with
        | error f =>
            simp only [hb, hc, bind, Except.bind] at h
            cases h
            exact .inl (collectEdges_eq_error w.connections [] hc)
        | ok edges =>
            simp only [hb, hc, bind, Except.bind, pure, Except.pure] at h
            split at h
            · next u hm =>
                cases h
                exact .inr ⟨by simpa using hne, rfl, edges, u, rfl, hm, rfl⟩
            · cases h

lemma build_error_kind {e : Error} (h : Plan.build w = .error e) : e.kind = .validation := by
  rcases build_eq_error h with ⟨text, rfl⟩ | ⟨-, -, edges, u, -, -, rfl⟩ <;> rfl

/-- The edges that the connections draw lie between positions of the workflow. -/
lemma bounded_successors {edges : List (Nat × Nat)}
    (hedges : ∀ u v, (u, v) ∈ edges ↔ w.Joins u v) :
    Traversal.Bounded (successors edges) w.blocks.length := by
  intro u _ v hv
  obtain ⟨c, _, _, hv⟩ := (hedges u v).mp (mem_successors.mp hv)
  exact position?_lt hv

/-- **A built plan is lawful.** -/
theorem lawful_of_build (h : Plan.build w = .ok p) : Lawful w p := by
  obtain ⟨_, _, hc, hm, hp⟩ := build_eq_ok h
  have hconn := (collectEdges_spec w.connections [] p.edges hc).1
  have hjoins := mem_iff_joins hc
  have hperm := Traversal.finished_visitAll_range (bounded_successors hjoins)
  have horder : p.order = searchOrder w.blocks.length p.edges := by rw [hp]
  refine ⟨by rw [hp], by rw [horder]; exact hperm, hjoins, fun u hu => ?_, ?_⟩
  · obtain ⟨c, hmem, hs, ht⟩ := (hjoins u u).mp hu
    obtain ⟨a, b, ha, hb, hne⟩ := hconn c hmem
    exact hne (Option.some.inj (ha.symm.trans (hs.trans (ht.symm.trans hb))))
  · rw [horder]
    exact pairwise_of_misplaced?_eq_none _ [] hm (hperm.nodup_iff.mpr List.nodup_range)

namespace Lawful

variable (h : Lawful w p)

include h

lemma nodup : p.order.Nodup := h.perm.nodup_iff.mpr List.nodup_range

lemma mem_order {i : Nat} : i ∈ p.order ↔ i < w.blocks.length := by
  rw [h.perm.mem_iff, List.mem_range]

lemma lt_of_edge {u v : Nat} (huv : (u, v) ∈ p.edges) :
    u < w.blocks.length ∧ v < w.blocks.length := by
  obtain ⟨c, _, hu, hv⟩ := (h.edges u v).mp huv
  exact ⟨position?_lt hu, position?_lt hv⟩

/-- **Every edge points forward in the order.** -/
theorem rank_lt {u v : Nat} (huv : (u, v) ∈ p.edges) : p.rank u < p.rank v := by
  obtain ⟨hu, hv⟩ := h.lt_of_edge huv
  have hu' := List.idxOf_lt_length_of_mem (h.mem_order.mpr hu)
  have hv' := List.idxOf_lt_length_of_mem (h.mem_order.mpr hv)
  rcases Nat.lt_trichotomy (p.order.idxOf u) (p.order.idxOf v) with hlt | heq | hgt
  · exact hlt
  · have huv' : u = v := (List.idxOf_inj (h.mem_order.mpr hu)).mp heq
    subst huv'
    exact absurd huv (h.loopless u)
  · have hback := List.pairwise_iff_getElem.mp h.forward _ _ hv' hu' hgt
    simp only [List.getElem_idxOf] at hback
    exact absurd huv hback

lemma rank_lt_of_transGen {u v : Nat} (huv : TransGen (fun u v => (u, v) ∈ p.edges) u v) :
    p.rank u < p.rank v := by
  induction huv with
  | single he => exact h.rank_lt he
  | tail _ he ih => exact lt_trans ih (h.rank_lt he)

lemma mem_sources {u b : Nat} : u ∈ p.sources b ↔ (u, b) ∈ p.edges := by
  rw [sources, List.mem_filter, List.contains_iff_mem]
  exact ⟨And.right, fun he => ⟨h.mem_order.mpr (h.lt_of_edge he).1, he⟩⟩

lemma mem_targets {b d : Nat} : d ∈ p.targets b ↔ (b, d) ∈ p.edges := by
  rw [targets, List.mem_filter, List.contains_iff_mem]
  exact ⟨And.right, fun he => ⟨h.mem_order.mpr (h.lt_of_edge he).2, he⟩⟩

lemma mem_sources_iff_mem_targets {u v : Nat} : u ∈ p.sources v ↔ v ∈ p.targets u := by
  rw [h.mem_sources, h.mem_targets]

lemma nodup_sources (b : Nat) : (p.sources b).Nodup := h.nodup.filter _

lemma nodup_targets (b : Nat) : (p.targets b).Nodup := h.nodup.filter _

lemma mem_entries {b : Nat} : b ∈ p.entries ↔ b < w.blocks.length ∧ p.sources b = [] := by
  rw [entries, List.mem_filter, h.mem_order, List.isEmpty_iff]

lemma nodup_entries : p.entries.Nodup := h.nodup.filter _

lemma bounded_targets : Traversal.Bounded p.targets w.blocks.length :=
  fun _ _ _ hd => (h.lt_of_edge (h.mem_targets.mp hd)).2

/-- **The descendants of a block are what it leads to.** -/
theorem mem_descendants {b d : Nat} :
    d ∈ p.descendants b ↔ TransGen (fun u v => (u, v) ∈ p.edges) b d := by
  have hroots : ∀ v ∈ p.targets b, v < w.blocks.length :=
    fun v hv => (h.lt_of_edge (h.mem_targets.mp hv)).2
  have hedge : Traversal.Edge p.targets = fun u v => (u, v) ∈ p.edges := by
    funext u v
    exact propext h.mem_targets
  rw [descendants, List.mem_filter, List.contains_iff_mem, h.size,
    Traversal.mem_seen_visitAll h.bounded_targets hroots, hedge]
  constructor
  · rintro ⟨_, v, hv, hr⟩
    exact TransGen.head' (h.mem_targets.mp hv) hr
  · intro hr
    refine ⟨?_, ?_⟩
    · obtain ⟨c, _, hcd⟩ := TransGen.tail'_iff.mp hr
      exact h.mem_order.mpr (h.lt_of_edge hcd).2
    · obtain ⟨c, hbc, hcd⟩ := TransGen.head'_iff.mp hr
      exact ⟨c, h.mem_targets.mpr hbc, hcd⟩

lemma mem_descendants_of_mem_targets {b d : Nat} (hd : d ∈ p.targets b) : d ∈ p.descendants b :=
  h.mem_descendants.mpr (TransGen.single (h.mem_targets.mp hd))

/-- What a descendant leads to is a descendant. -/
lemma descendants_trans {b d e : Nat} (hd : d ∈ p.descendants b) (he : e ∈ p.targets d) :
    e ∈ p.descendants b :=
  h.mem_descendants.mpr ((h.mem_descendants.mp hd).tail (h.mem_targets.mp he))

lemma not_mem_descendants_self {b : Nat} : b ∉ p.descendants b :=
  fun hb => lt_irrefl _ (h.rank_lt_of_transGen (h.mem_descendants.mp hb))

/-- No entry depends on a block. -/
lemma not_mem_descendants_of_mem_entries {b d : Nat} (hd : d ∈ p.entries) :
    d ∉ p.descendants b := by
  intro hb
  obtain ⟨u, -, hu⟩ := TransGen.tail'_iff.mp (h.mem_descendants.mp hb)
  have hsource := h.mem_sources.mpr hu
  rw [(h.mem_entries.mp hd).2] at hsource
  cases hsource

lemma descendants_lt {b d : Nat} (hd : d ∈ p.descendants b) : d < w.blocks.length :=
  h.mem_order.mp (List.mem_filter.mp hd).1

end Lawful

/-! ## Well-formed workflows -/

/-- The passes over the blocks and the connections accept what draws a graph. -/
lemma drawn_iff : w.Drawn ↔ w.blocks ≠ [] ∧ checkBlocks [] [] 0 w.blocks = .ok () ∧
    ∃ edges, collectEdges w [] w.connections = .ok edges := by
  constructor
  · intro h
    refine ⟨h.nonempty, (checkBlocks_eq_ok_iff w.blocks [] [] 0).mpr
      ⟨h.named, h.ids, by simp, h.normalizedIds, by simp⟩,
      exists_collectEdges w.connections [] fun c hc => ?_⟩
    obtain ⟨u, hu⟩ := exists_position?_iff.mpr (h.source_mem c hc)
    obtain ⟨v, hv⟩ := exists_position?_iff.mpr (h.target_mem c hc)
    refine ⟨u, v, hu, hv, ?_⟩
    rintro rfl
    exact h.loopless c hc (position?_inj hu hv)
  · rintro ⟨hne, hb, edges, hc⟩
    obtain ⟨hnamed, hids, -, hnormalized, -⟩ := (checkBlocks_eq_ok_iff w.blocks [] [] 0).mp hb
    obtain ⟨hconn, -⟩ := collectEdges_spec w.connections [] edges hc
    refine ⟨hne, hnamed, hids, hnormalized, fun c hc => ?_, fun c hc => ?_, fun c hc heq => ?_⟩
    · obtain ⟨u, v, hu, -, -⟩ := hconn c hc
      exact exists_position?_iff.mp ⟨u, hu⟩
    · obtain ⟨u, v, -, hv, -⟩ := hconn c hc
      exact exists_position?_iff.mp ⟨v, hv⟩
    · obtain ⟨u, v, hu, hv, hneq⟩ := hconn c hc
      rw [heq] at hu
      exact hneq (Option.some.inj (hu.symm.trans hv))

/-- A workflow with a plan is well formed.  Its edges all point forward in the order, so no
connections can lead back to where they began. -/
theorem wellFormed_of_build (h : Plan.build w = .ok p) : w.WellFormed := by
  obtain ⟨hne, hb, hc, _, _⟩ := build_eq_ok h
  have hd : w.Drawn := drawn_iff.mpr ⟨hne, hb, _, hc⟩
  have hl := lawful_of_build h
  refine wellFormed_iff.mpr ⟨hd, fun a ha => ?_⟩
  have hcycle := transGen_joins_of_feeds hd.source_mem hd.target_mem ha
  have hjoins : w.Joins = fun u v => (u, v) ∈ p.edges := by
    funext u v
    exact propext (hl.edges u v).symm
  rw [hjoins] at hcycle
  exact lt_irrefl _ (hl.rank_lt_of_transGen hcycle)

/-- The search walks along the connections. -/
lemma edge_eq_joins {edges : List (Nat × Nat)} (hc : collectEdges w [] w.connections = .ok edges) :
    Traversal.Edge (successors edges) = w.Joins := by
  funext u v
  exact propext (edge_successors.trans (mem_iff_joins hc u v))

/-- A well-formed workflow has a plan.  Without cycles the search leaves an order in which no
edge points backwards, so nothing is misplaced. -/
theorem exists_build (h : w.WellFormed) : ∃ p, Plan.build w = .ok p := by
  obtain ⟨hd, hacyclic⟩ := wellFormed_iff.mp h
  obtain ⟨hne, hb, edges, hc⟩ := drawn_iff.mp hd
  have hjoins := mem_iff_joins hc
  have hbounded := bounded_successors hjoins
  have hm : misplaced? edges [] (searchOrder w.blocks.length edges) = none := by
    refine misplaced?_eq_none_of_pairwise _ [] (fun v _ u hu => ?_) ?_
    · obtain ⟨c, _, hu, _⟩ := (hjoins u v).mp hu
      refine List.mem_append_right [] ?_
      exact (Traversal.finished_visitAll_range hbounded).mem_iff.mpr
        (List.mem_range.mpr (position?_lt hu))
    · refine (Traversal.visitAll_sorted hbounded).imp fun {u v} huv hback => ?_
      have hcycle := (huv (mem_successors.mpr hback)).tail (edge_successors.mpr hback)
      rw [edge_eq_joins hc] at hcycle
      exact hacyclic _ (transGen_feeds_of_joins hcycle)
  refine ⟨⟨w.blocks.length, edges, searchOrder w.blocks.length edges⟩, ?_⟩
  rw [build_of_passes hne hb hc, hm]

/-- **A plan is built exactly for the well-formed workflows**; every other workflow is rejected
with an error of kind `validation`. -/
theorem build_ok_iff_wellFormed (w : Workflow) :
    ((∃ p, Plan.build w = .ok p) ↔ w.WellFormed) ∧
      (¬ w.WellFormed → ∃ e, Plan.build w = .error e ∧ e.kind = .validation) := by
  refine ⟨⟨fun ⟨p, hp⟩ => wellFormed_of_build hp, exists_build⟩, fun hw => ?_⟩
  cases h : Plan.build w with
  | ok p => exact absurd (wellFormed_of_build h) hw
  | error e => exact ⟨e, rfl, build_error_kind h⟩

end Plan

end Blockflow
