import Blockflow.Plan
import Mathlib.Data.Finset.Card
import Mathlib.Data.List.Basic
import Mathlib.Logic.Relation

/-!
# What a depth-first search explores and finishes

`Traversal.visit` is a recursion on fuel, so two things have to be said about it: that the fuel
never runs out, and what the search has done when it comes back.  Both follow from one invariant.

* `Traversal.Explores` — everything a search from some roots does to a traversal: which nodes are
  new, that they are seen and finished, and where their successors are.  `visit_explores` and
  `foldl_visit_explores` establish it as long as fewer nodes are unseen than there is fuel.
* **`mem_seen_visitAll`** — the search sees exactly what is reachable from its roots.
* `Traversal.Ordered` — an edge of what is finished leads to what was finished before, or closes a
  cycle; **`visitAll_sorted`**.

The second invariant is where cycles matter.  A node that is seen but not finished lies on the
path to the current node, so a successor of the current node that is seen and not finished closes
a cycle.
-/

namespace Blockflow

namespace Traversal

open Relation

/-- A step along an edge. -/
def Edge (next : Nat → List Nat) (v w : Nat) : Prop := w ∈ next v

/-- The edges from nodes below `n` end below `n`. -/
def Bounded (next : Nat → List Nat) (n : Nat) : Prop := ∀ v < n, ∀ w ∈ next v, w < n

/-- How many nodes below `n` have not been seen. -/
def unseen (n : Nat) (t : Traversal) : Nat := (Finset.range n \ t.seen.toFinset).card

/-- **What a search from some roots does**: `new` lists the nodes it finishes, the latest
first. -/
structure Explores (next : Nat → List Nat) (roots : List Nat) (t u : Traversal)
    (new : List Nat) : Prop where
  finished : u.finished = new ++ t.finished
  seen : ∀ x, x ∈ u.seen ↔ x ∈ new ∨ x ∈ t.seen
  fresh : ∀ x ∈ new, x ∉ t.seen
  nodup : new.Nodup
  rooted : ∀ v ∈ roots, v ∈ u.seen
  closed : ∀ x ∈ new, ∀ y ∈ next x, y ∈ u.seen
  reached : ∀ x ∈ new, ∃ v ∈ roots, ReflTransGen (Edge next) v x

variable {next : Nat → List Nat} {n : Nat}

/-! ## The fuel lasts -/

lemma unseen_le {t u : Traversal} (h : ∀ x ∈ t.seen, x ∈ u.seen) : unseen n u ≤ unseen n t := by
  refine Finset.card_le_card fun x hx => ?_
  simp only [Finset.mem_sdiff, List.mem_toFinset] at hx ⊢
  exact ⟨hx.1, fun hxt => hx.2 (h x hxt)⟩

/-- Seeing a node leaves one less to see, so the recursion may spend one unit of fuel on it. -/
lemma unseen_cons_lt {t : Traversal} {v : Nat} (hv : v < n) (h : v ∉ t.seen) :
    unseen n { t with seen := v :: t.seen } < unseen n t := by
  refine Finset.card_lt_card ((Finset.ssubset_iff_of_subset fun x hx => ?_).mpr ⟨v, ?_, ?_⟩)
  · simp only [Finset.mem_sdiff, List.mem_toFinset, List.mem_cons, not_or] at hx ⊢
    exact ⟨hx.1, hx.2.2⟩
  · simp [hv, h]
  · simp

lemma unseen_empty : unseen n {} = n := by simp [unseen]

/-! ## Exploring -/

lemma explores_nil (t : Traversal) : Explores next [] t t [] where
  finished := rfl
  seen := by simp
  fresh := by simp
  nodup := List.nodup_nil
  rooted := by simp
  closed := by simp
  reached := by simp

/-- A root that was already seen adds nothing. -/
lemma explores_seen {t : Traversal} {v : Nat} (h : v ∈ t.seen) : Explores next [v] t t [] where
  finished := rfl
  seen := by simp
  fresh := by simp
  nodup := List.nodup_nil
  rooted := by simpa using h
  closed := by simp
  reached := by simp

/-- One search after another. -/
lemma Explores.cons {v : Nat} {vs new₁ new₂ : List Nat} {t t₁ t₂ : Traversal}
    (h₁ : Explores next [v] t t₁ new₁) (h₂ : Explores next vs t₁ t₂ new₂) :
    Explores next (v :: vs) t t₂ (new₂ ++ new₁) where
  finished := by rw [h₂.finished, h₁.finished, List.append_assoc]
  seen x := by rw [h₂.seen, h₁.seen, List.mem_append, or_assoc]
  fresh x hx := by
    rcases List.mem_append.mp hx with hx | hx
    · exact fun hxt => h₂.fresh x hx ((h₁.seen x).mpr (Or.inr hxt))
    · exact h₁.fresh x hx
  nodup := by
    refine List.nodup_append.mpr ⟨h₂.nodup, h₁.nodup, ?_⟩
    rintro x hx y hy rfl
    exact h₂.fresh x hx ((h₁.seen x).mpr (Or.inl hy))
  rooted w hw := by
    rcases List.mem_cons.mp hw with rfl | hw
    · exact (h₂.seen w).mpr (Or.inr (h₁.rooted w (List.mem_singleton_self w)))
    · exact h₂.rooted w hw
  closed x hx y hy := by
    rcases List.mem_append.mp hx with hx | hx
    · exact h₂.closed x hx y hy
    · exact (h₂.seen y).mpr (Or.inr (h₁.closed x hx y hy))
  reached x hx := by
    rcases List.mem_append.mp hx with hx | hx
    · obtain ⟨w, hw, hr⟩ := h₂.reached x hx
      exact ⟨w, List.mem_cons_of_mem v hw, hr⟩
    · obtain ⟨w, hw, hr⟩ := h₁.reached x hx
      rw [List.mem_singleton] at hw
      exact ⟨v, List.mem_cons_self, hw ▸ hr⟩

/-- A node that is seen, whose successors are searched, and that is finished then. -/
lemma Explores.finish {v : Nat} {new : List Nat} {t u : Traversal} (hv : v ∉ t.seen)
    (h : Explores next (next v) { t with seen := v :: t.seen } u new) :
    Explores next [v] t { u with finished := v :: u.finished } (v :: new) where
  finished := by simp [h.finished]
  seen x := by
    rw [h.seen]
    simp only [List.mem_cons]
    tauto
  fresh x hx := by
    rcases List.mem_cons.mp hx with rfl | hx
    · exact hv
    · exact fun hxt => h.fresh x hx (List.mem_cons_of_mem v hxt)
  nodup := List.nodup_cons.mpr ⟨fun hn => h.fresh v hn List.mem_cons_self, h.nodup⟩
  rooted w hw := by
    rw [List.mem_singleton] at hw
    exact (h.seen w).mpr (Or.inr (hw ▸ List.mem_cons_self))
  closed x hx y hy := by
    rcases List.mem_cons.mp hx with rfl | hx
    · exact h.rooted y hy
    · exact h.closed x hx y hy
  reached x hx := by
    refine ⟨v, List.mem_singleton_self v, ?_⟩
    rcases List.mem_cons.mp hx with rfl | hx
    · exact ReflTransGen.refl
    · obtain ⟨w, hw, hr⟩ := h.reached x hx
      exact ReflTransGen.head hw hr

lemma Explores.seen_mono {roots new : List Nat} {t u : Traversal}
    (h : Explores next roots t u new) : ∀ x ∈ t.seen, x ∈ u.seen :=
  fun x hx => (h.seen x).mpr (Or.inr hx)

/-- The search from a list of roots, given the search from one. -/
lemma foldl_explores {fuel : Nat}
    (hvisit : ∀ t v, v < n → unseen n t < fuel →
      ∃ new, Explores next [v] t (visit next fuel t v) new) :
    ∀ (vs : List Nat) (t : Traversal), (∀ v ∈ vs, v < n) → unseen n t < fuel →
      ∃ new, Explores next vs t (vs.foldl (visit next fuel) t) new := by
  intro vs
  induction vs with
  | nil => exact fun t _ _ => ⟨[], explores_nil t⟩
  | cons v vs ih =>
      intro t hvs hfuel
      obtain ⟨new₁, h₁⟩ := hvisit t v (hvs v List.mem_cons_self) hfuel
      obtain ⟨new₂, h₂⟩ := ih (visit next fuel t v)
        (fun w hw => hvs w (List.mem_cons_of_mem v hw))
        (lt_of_le_of_lt (unseen_le h₁.seen_mono) hfuel)
      exact ⟨new₂ ++ new₁, h₁.cons h₂⟩

/-- **A search with fuel for every unseen node explores.** -/
theorem visit_explores (hb : Bounded next n) :
    ∀ (fuel : Nat) (t : Traversal) (v : Nat), v < n → unseen n t < fuel →
      ∃ new, Explores next [v] t (visit next fuel t v) new := by
  intro fuel
  induction fuel with
  | zero => intro t v _ h; omega
  | succ fuel ih =>
      intro t v hv hfuel
      by_cases hseen : v ∈ t.seen
      · refine ⟨[], ?_⟩
        simpa [visit, hseen] using explores_seen hseen
      · have hlt := unseen_cons_lt hv hseen
        obtain ⟨new, h⟩ := foldl_explores ih (next v) { t with seen := v :: t.seen } (hb v hv)
          (by omega)
        refine ⟨v :: new, ?_⟩
        simpa [visit, hseen] using h.finish hseen

theorem foldl_visit_explores (hb : Bounded next n) {fuel : Nat} (vs : List Nat) (t : Traversal)
    (hvs : ∀ v ∈ vs, v < n) (hfuel : unseen n t < fuel) :
    ∃ new, Explores next vs t (vs.foldl (visit next fuel) t) new :=
  foldl_explores (visit_explores hb fuel) vs t hvs hfuel

/-! ## What a whole search sees -/

/-- Nodes reachable from a set that is closed under successors lie in it. -/
lemma mem_of_reachable {p : Nat → Prop} (hclosed : ∀ x, p x → ∀ y ∈ next x, p y) {v x : Nat}
    (hv : p v) (h : ReflTransGen (Edge next) v x) : p x := by
  induction h with
  | refl => exact hv
  | tail _ hstep ih => exact hclosed _ ih _ hstep

/-- **A search from the beginning sees what is reachable from its roots**, and finishes it. -/
theorem visitAll_spec (hb : Bounded next n) {vs : List Nat} (hvs : ∀ v ∈ vs, v < n) :
    (visitAll next (n + 1) vs).finished.Nodup ∧
      (∀ x, x ∈ (visitAll next (n + 1) vs).finished ↔ x ∈ (visitAll next (n + 1) vs).seen) ∧
      ∀ x, x ∈ (visitAll next (n + 1) vs).seen ↔ ∃ v ∈ vs, ReflTransGen (Edge next) v x := by
  have hfuel : unseen n {} < n + 1 := by rw [unseen_empty]; omega
  obtain ⟨new, h⟩ := foldl_visit_explores hb vs {} hvs hfuel
  have hfin : (visitAll next (n + 1) vs).finished = new := by
    simpa [visitAll] using h.finished
  have hseen : ∀ x, x ∈ (visitAll next (n + 1) vs).seen ↔ x ∈ new := by
    intro x
    simpa [visitAll] using h.seen x
  refine ⟨hfin ▸ h.nodup, fun x => by rw [hfin, hseen], fun x => ⟨fun hx => ?_, ?_⟩⟩
  · exact h.reached x ((hseen x).mp hx)
  · rintro ⟨v, hv, hr⟩
    refine mem_of_reachable (p := (· ∈ (visitAll next (n + 1) vs).seen)) (fun y hy z hz => ?_)
      (h.rooted v hv) hr
    exact h.closed y ((hseen y).mp hy) z hz

theorem mem_seen_visitAll (hb : Bounded next n) {vs : List Nat} (hvs : ∀ v ∈ vs, v < n) (x : Nat) :
    x ∈ (visitAll next (n + 1) vs).seen ↔ ∃ v ∈ vs, ReflTransGen (Edge next) v x :=
  (visitAll_spec hb hvs).2.2 x

/-- A search from all nodes finishes each of them once. -/
theorem finished_visitAll_range (hb : Bounded next n) :
    (visitAll next (n + 1) (List.range n)).finished.Perm (List.range n) := by
  have hvs : ∀ v ∈ List.range n, v < n := fun v hv => List.mem_range.mp hv
  obtain ⟨hnodup, hfin, hseen⟩ := visitAll_spec hb hvs
  refine (List.perm_ext_iff_of_nodup hnodup List.nodup_range).mpr fun x => ?_
  rw [hfin, hseen, List.mem_range]
  constructor
  · rintro ⟨v, hv, hr⟩
    exact mem_of_reachable (p := (· < n)) hb (hvs v hv) hr
  · exact fun hx => ⟨x, List.mem_range.mpr hx, ReflTransGen.refl⟩

/-! ## The order of finishing

What is finished is a list whose latest entry comes first.  When a node is finished, each of its
successors was finished before or is still open, and whatever is open leads to the current node.
So an edge to a node that is finished later closes a cycle, in whatever graph.
-/

/-- **Edges of what is finished** lead to what was finished before, or close a cycle. -/
structure Ordered (next : Nat → List Nat) (t : Traversal) : Prop where
  seen : ∀ x ∈ t.finished, x ∈ t.seen
  closed : ∀ x ∈ t.finished, ∀ y ∈ next x, y ∈ t.finished ∨ TransGen (Edge next) y x
  sorted : t.finished.Pairwise fun x y => x ∈ next y → TransGen (Edge next) x y

/-- Whatever is seen and not finished leads to a node. -/
def OpenAbove (next : Nat → List Nat) (t : Traversal) (v : Nat) : Prop :=
  ∀ x ∈ t.seen, x ∈ t.finished ∨ TransGen (Edge next) x v

/-- A search leaves no node open that was not. -/
lemma Explores.openAbove {roots new : List Nat} {t u : Traversal} {v : Nat}
    (h : Explores next roots t u new) (ht : OpenAbove next t v) : OpenAbove next u v := by
  intro x hx
  rcases (h.seen x).mp hx with hx | hx
  · exact Or.inl (h.finished ▸ List.mem_append_left _ hx)
  · exact (ht x hx).imp_left fun hf => h.finished ▸ List.mem_append_right _ hf

/-- A node may be finished once its successors were searched. -/
lemma Ordered.finish {new : List Nat} {t u : Traversal} {v : Nat} (hv : v ∉ t.seen)
    (ht : Ordered next t) (hu : Ordered next u)
    (h : Explores next (next v) { t with seen := v :: t.seen } u new)
    (hopen : OpenAbove next t v) : Ordered next { u with finished := v :: u.finished } := by
  have hvu : v ∉ u.finished := by
    rw [h.finished]
    intro hmem
    rcases List.mem_append.mp hmem with hn | hf
    · exact h.fresh v hn List.mem_cons_self
    · exact hv (ht.seen v hf)
  have hnext : ∀ y ∈ next v, y ∈ v :: u.finished ∨ TransGen (Edge next) y v := by
    intro y hy
    rw [h.finished]
    rcases (h.seen y).mp (h.rooted y hy) with hy | hy
    · exact Or.inl (List.mem_cons_of_mem v (List.mem_append_left _ hy))
    · rcases List.mem_cons.mp hy with rfl | hy
      · exact Or.inl List.mem_cons_self
      · exact (hopen y hy).imp_left fun hf =>
          List.mem_cons_of_mem v (List.mem_append_right _ hf)
  refine ⟨fun x hx => ?_, fun x hx y hy => ?_, List.pairwise_cons.mpr ⟨fun y hy => ?_, hu.sorted⟩⟩
  · rcases List.mem_cons.mp hx with rfl | hx
    · exact h.seen_mono x List.mem_cons_self
    · exact hu.seen x hx
  · rcases List.mem_cons.mp hx with rfl | hx
    · exact hnext y hy
    · exact (hu.closed x hx y hy).imp_left (List.mem_cons_of_mem v)
  · exact fun hvy => (hu.closed y hy v hvy).resolve_left hvu

/-- The search from a list of nodes, given the search from one. -/
lemma foldl_ordered (hb : Bounded next n) {fuel : Nat}
    (hvisit : ∀ t v, v < n → unseen n t < fuel → Ordered next t → OpenAbove next t v →
      Ordered next (visit next fuel t v)) :
    ∀ (vs : List Nat) (t : Traversal), (∀ v ∈ vs, v < n) → unseen n t < fuel → Ordered next t →
      (∀ v ∈ vs, OpenAbove next t v) → Ordered next (vs.foldl (visit next fuel) t) := by
  intro vs
  induction vs with
  | nil => exact fun t _ _ ht _ => ht
  | cons v vs ih =>
      intro t hvs hfuel ht hopen
      obtain ⟨hv, hvs⟩ := List.forall_mem_cons.mp hvs
      obtain ⟨hopenHead, hopen⟩ := List.forall_mem_cons.mp hopen
      obtain ⟨new, h⟩ := visit_explores hb fuel t v hv hfuel
      exact ih (visit next fuel t v) hvs (lt_of_le_of_lt (unseen_le h.seen_mono) hfuel)
        (hvisit t v hv hfuel ht hopenHead) fun w hw => h.openAbove (hopen w hw)

/-- **A search keeps the finished nodes in order.** -/
theorem visit_ordered (hb : Bounded next n) :
    ∀ (fuel : Nat) (t : Traversal) (v : Nat), v < n → unseen n t < fuel → Ordered next t →
      OpenAbove next t v → Ordered next (visit next fuel t v) := by
  intro fuel
  induction fuel with
  | zero => intro t v _ h; omega
  | succ fuel ih =>
      intro t v hv hfuel ht hopen
      by_cases hseen : v ∈ t.seen
      · simpa [visit, hseen] using ht
      · have hlt := unseen_cons_lt hv hseen
        have hfuel' : unseen n { t with seen := v :: t.seen } < fuel := by omega
        have ht' : Ordered next { t with seen := v :: t.seen } :=
          ⟨fun x hx => List.mem_cons_of_mem v (ht.seen x hx), ht.closed, ht.sorted⟩
        -- the node itself is open now, and it leads to each of its successors
        have hopen' : ∀ w ∈ next v, OpenAbove next { t with seen := v :: t.seen } w := by
          intro w hw x hx
          rcases List.mem_cons.mp hx with rfl | hx
          · exact Or.inr (TransGen.single hw)
          · exact (hopen x hx).imp_right fun hr => hr.tail hw
        have hord := foldl_ordered hb ih (next v) _ (hb v hv) hfuel' ht' hopen'
        obtain ⟨new, h⟩ := foldl_visit_explores hb (next v) _ (hb v hv) hfuel'
        simpa [visit, hseen] using ht.finish hseen hord h hopen

/-- **An edge to a node that is finished later closes a cycle.** -/
theorem visitAll_sorted (hb : Bounded next n) :
    (visitAll next (n + 1) (List.range n)).finished.Pairwise
      fun x y => x ∈ next y → TransGen (Edge next) x y := by
  refine (foldl_ordered hb (visit_ordered hb (n + 1)) (List.range n) {}
    (fun v hv => List.mem_range.mp hv) (by rw [unseen_empty]; omega) ⟨?_, ?_, ?_⟩ ?_).sorted
  · simp
  · simp
  · exact List.Pairwise.nil
  · intro v _ x hx
    simp at hx

end Traversal

end Blockflow
