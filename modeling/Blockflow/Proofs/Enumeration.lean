import Mathlib.Data.List.Basic
import Mathlib.Data.List.Lex

/-!
# Enumerations

A list that is put together from several searches is described by the places at which something is
found: it shows what is found there, place by place, in the order of the places.

* **`Enumerates`** — a list shows what is found at places, in their order.
* `Enumerates.append`, **`Enumerates.flatMap`** — one search after another.
* `Enumerates.relocate`, `Enumerates.filterMap` — places seen from outside, and the finds of one
  form.
-/

namespace Blockflow

variable {κ σ τ α β : Type}

/-- **A list enumerates what is found at places.**  Each find is listed, nothing else is, and the
list follows the places. -/
def Enumerates (before : σ → σ → Prop) (found : σ → α → Prop) (xs : List α) : Prop :=
  ∃ placed : List (σ × α), placed.Pairwise (fun a b => before a.1 b.1) ∧
    (∀ s x, (s, x) ∈ placed ↔ found s x) ∧ placed.map Prod.snd = xs

namespace Enumerates

variable {before : σ → σ → Prop} {found found' : σ → α → Prop} {xs ys : List α}

lemma mem_iff (h : Enumerates before found xs) {x : α} : x ∈ xs ↔ ∃ s, found s x := by
  obtain ⟨placed, -, hmem, rfl⟩ := h
  simp [← hmem]

lemma congr (h : Enumerates before found xs) (hfound : ∀ s x, found s x ↔ found' s x) :
    Enumerates before found' xs := by
  obtain ⟨placed, hordered, hmem, hlist⟩ := h
  exact ⟨placed, hordered, fun s x => (hmem s x).trans (hfound s x), hlist⟩

lemma nil (h : ∀ s x, ¬ found s x) : Enumerates before found [] :=
  ⟨[], .nil, fun s x => ⟨nofun, fun hfound => absurd hfound (h s x)⟩, rfl⟩

lemma singleton {s : σ} {x : α} (h : ∀ t y, found t y ↔ t = s ∧ y = x) :
    Enumerates before found [x] :=
  ⟨[(s, x)], List.pairwise_singleton _ _, fun t y => by simp [h t y], rfl⟩

/-- One search after another, all of whose places come later. -/
lemma append (h : Enumerates before found xs) (h' : Enumerates before found' ys)
    (hlater : ∀ s x t y, found s x → found' t y → before s t) :
    Enumerates before (fun s x => found s x ∨ found' s x) (xs ++ ys) := by
  obtain ⟨placed, hordered, hmem, rfl⟩ := h
  obtain ⟨placed', hordered', hmem', rfl⟩ := h'
  refine ⟨placed ++ placed', List.pairwise_append.mpr ⟨hordered, hordered', ?_⟩, ?_, ?_⟩
  · exact fun e he e' he' => hlater e.1 e.2 e'.1 e'.2 ((hmem _ _).mp he) ((hmem' _ _).mp he')
  · exact fun s x => by rw [List.mem_append, hmem, hmem']
  · exact List.map_append

/-- **Searches one after another**, the places of each before the places of those that follow. -/
theorem flatMap {ks : List κ} {earlier : κ → κ → Prop} {found : κ → σ → α → Prop}
    {search : κ → List α} (hks : ks.Pairwise earlier)
    (h : ∀ k ∈ ks, Enumerates before (found k) (search k))
    (hlater : ∀ k k', earlier k k' → ∀ s x t y, found k s x → found k' t y → before s t) :
    Enumerates before (fun s x => ∃ k ∈ ks, found k s x) (ks.flatMap search) := by
  induction ks with
  | nil => exact .nil (by simp)
  | cons k ks ih =>
      obtain ⟨hfirst, hrest⟩ := List.pairwise_cons.mp hks
      obtain ⟨hk, htail⟩ := List.forall_mem_cons.mp h
      have hmany : Enumerates before
          (fun s x => found k s x ∨ ∃ k' ∈ ks, found k' s x) (search k ++ ks.flatMap search) := by
        refine hk.append (ih hrest htail) ?_
        rintro s x t y hs ⟨k', hk', ht⟩
        exact hlater k k' (hfirst k' hk') s x t y hs ht
      exact hmany.congr fun s x => by simp

/-- Places seen from outside. -/
lemma relocate {outside : τ → τ → Prop} (h : Enumerates before found xs) (place : σ → τ)
    (hplace : ∀ s t, before s t → outside (place s) (place t)) :
    Enumerates outside (fun s x => ∃ t, s = place t ∧ found t x) xs := by
  obtain ⟨placed, hordered, hmem, rfl⟩ := h
  refine ⟨placed.map fun e => (place e.1, e.2), ?_, fun s x => ?_, ?_⟩
  · exact List.pairwise_map.mpr (hordered.imp fun hbefore => hplace _ _ hbefore)
  · simp only [List.mem_map, Prod.mk.injEq, ← hmem, Prod.exists]
    constructor
    · rintro ⟨t, y, hmem, rfl, rfl⟩
      exact ⟨t, rfl, hmem⟩
    · rintro ⟨t, rfl, hmem⟩
      exact ⟨t, x, hmem, rfl, rfl⟩
  · rw [List.map_map]
    rfl

/-- The finds of one form. -/
lemma filterMap (h : Enumerates before found xs) {pick : α → Option β} {form : β → α}
    (hpick : ∀ x y, pick x = some y ↔ x = form y) :
    Enumerates before (fun s y => found s (form y)) (xs.filterMap pick) := by
  obtain ⟨placed, hordered, hmem, rfl⟩ := h
  refine ⟨placed.filterMap fun e => (pick e.2).map (Prod.mk e.1), ?_, fun s y => ?_, ?_⟩
  · refine hordered.filterMap _ ?_
    rintro ⟨s, x⟩ ⟨t, y⟩ hbefore e he e' he'
    obtain ⟨_, -, rfl⟩ := Option.map_eq_some_iff.mp he
    obtain ⟨_, -, rfl⟩ := Option.map_eq_some_iff.mp he'
    exact hbefore
  · simp only [List.mem_filterMap, Option.map_eq_some_iff, Prod.exists, Prod.mk.injEq, hpick,
      ← hmem]
    constructor
    · rintro ⟨_, _, hx, _, rfl, rfl, rfl⟩
      exact hx
    · exact fun hx => ⟨s, form y, hx, y, rfl, rfl, rfl⟩
  · rw [List.map_filterMap, List.filterMap_map]
    refine List.filterMap_congr fun e _ => ?_
    simp only [Function.comp_apply, Option.map_map]
    exact Option.map_id'

end Enumerates

end Blockflow
