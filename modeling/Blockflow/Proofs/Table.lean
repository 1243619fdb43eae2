import Blockflow.Table
import Mathlib.Data.String.Basic

/-!
# Sorted tables

A sorted table is determined by what is looked up in it.

* `get?_filter`, `get?_mapValues` — look-up in a part of a table, and in one with changed values.
* `Sorted.get?_eq_some_iff` — in a sorted table every entry is found.
* **`Sorted.ext`** — two sorted tables that hold the same are the same.
* **`sorted_insert`**, `Sorted.insert_last` — writing an entry.
* `mem_of_get?_ofList`, `exists_get?_ofList`, **`forall_get?_ofList_iff`** — what is found in the
  table of a list of entries.
* `sorted_ofList`, **`ofList_perm`** — the table itself.
-/

namespace Blockflow.Table

variable {α β : Type} {t t' : Table α}

/-! ## Look-up -/

/-- A part of a table that is chosen by keys holds what the table holds under these keys. -/
lemma get?_filter (p : String → Bool) (t : Table α) (key : String) :
    get? (t.filter fun e => p e.1) key = if p key then t.get? key else none := by
  induction t with
  | nil => simp [get?]
  | cons e t ih =>
      obtain ⟨k, v⟩ := e
      by_cases hk : k = key
      · subst hk
        by_cases hp : p k
        · simp [hp, get?]
        · simp [hp, ih]
      · by_cases hp : p k <;> simp [hp, get?, hk, ih]

lemma get?_mapValues (g : α → β) (t : Table α) (key : String) :
    get? (mapValues g t) key = (t.get? key).map g := by
  induction t with
  | nil => rfl
  | cons e t ih =>
      obtain ⟨k, v⟩ := e
      rw [mapValues, List.map_cons, get?, get?]
      split_ifs
      · rfl
      · exact ih

/-! ## Sorted tables -/

instance : DecidablePred (Sorted (α := α)) := fun t =>
  inferInstanceAs (Decidable (List.Pairwise (fun a b : String × α => a.1 < b.1) t))

lemma Sorted.filter (h : Sorted t) (p : String × α → Bool) : Sorted (List.filter p t) :=
  List.Pairwise.filter p h

lemma Sorted.mapValues (h : Sorted t) (g : α → β) : Sorted (t.mapValues g) :=
  List.pairwise_map.mpr h

/-- Below the first key there is nothing. -/
lemma get?_eq_none_of_lt {key : String} (h : ∀ e ∈ t, key < e.1) : t.get? key = none := by
  induction t with
  | nil => rfl
  | cons e t ih =>
      obtain ⟨k, v⟩ := e
      rw [get?, if_neg (h (k, v) List.mem_cons_self).ne', ih fun e he =>
        h e (List.mem_cons_of_mem _ he)]

/-- In a sorted table every entry is found. -/
lemma Sorted.get?_eq_some_iff (h : Sorted t) {key : String} {value : α} :
    t.get? key = some value ↔ (key, value) ∈ t := by
  induction t with
  | nil => simp [get?]
  | cons e t ih =>
      obtain ⟨k, v⟩ := e
      obtain ⟨hfirst, hrest⟩ := List.pairwise_cons.mp h
      rw [get?, List.mem_cons, Prod.mk.injEq]
      split_ifs with hkey
      · subst hkey
        have hlater : (k, value) ∉ t := fun hmem => lt_irrefl k (hfirst _ hmem)
        simp [hlater, eq_comm]
      · simp [ih hrest, Ne.symm hkey]

/-- A first key that another table knows is not before the other's first key. -/
lemma Sorted.le_of_get?_eq {k k' : String} {v v' : α} (h' : Sorted ((k', v') :: t'))
    (hget : get? ((k, v) :: t) k = get? ((k', v') :: t') k) : k' ≤ k := by
  by_contra hlt
  have hnone : get? ((k', v') :: t') k = none := by
    refine get?_eq_none_of_lt fun e he => ?_
    rcases List.mem_cons.mp he with rfl | he
    · exact not_le.mp hlt
    · exact (not_le.mp hlt).trans ((List.pairwise_cons.mp h').1 e he)
  rw [hnone, get?, if_pos rfl] at hget
  cases hget

/-- **Sorted tables that hold the same are the same.** -/
theorem Sorted.ext (h : Sorted t) (h' : Sorted t') (hget : ∀ key, t.get? key = t'.get? key) :
    t = t' := by
  induction t generalizing t' with
  | nil =>
      cases t' with
      | nil => rfl
      | cons e' t' => simpa [get?] using hget e'.1
  | cons e t ih =>
      cases t' with
      | nil => simpa [get?] using hget e.1
      | cons e' t' =>
          obtain ⟨k, v⟩ := e
          obtain ⟨k', v'⟩ := e'
          obtain rfl : k = k' :=
            le_antisymm (h.le_of_get?_eq (hget k').symm) (h'.le_of_get?_eq (hget k))
          obtain ⟨hk, ht⟩ := List.pairwise_cons.mp h
          obtain ⟨hk', ht'⟩ := List.pairwise_cons.mp h'
          have hv : v = v' := by simpa [get?] using hget k
          have hrest : t = t' := by
            refine ih ht ht' fun key => ?_
            by_cases hkey : k = key
            · subst hkey
              rw [get?_eq_none_of_lt hk, get?_eq_none_of_lt hk']
            · simpa [get?, hkey] using hget key
          rw [hv, hrest]

/-! ## Insertion -/

/-- What a table holds after a write is the written entry or was there before. -/
lemma mem_insert {key : String} {value : α} {e : String × α} (h : e ∈ t.insert key value) :
    e = (key, value) ∨ e ∈ t := by
  induction t with
  | nil => simpa [insert] using h
  | cons e' t ih =>
      obtain ⟨k, v⟩ := e'
      rw [insert] at h
      split_ifs at h
      · simpa using h
      · rcases List.mem_cons.mp h with rfl | h
        · exact .inl rfl
        · exact .inr (List.mem_cons_of_mem _ h)
      · rcases List.mem_cons.mp h with rfl | h
        · exact .inr List.mem_cons_self
        · exact (ih h).imp_right (List.mem_cons_of_mem _)

/-- **A write keeps the order.** -/
theorem sorted_insert (h : Sorted t) (key : String) (value : α) :
    Sorted (t.insert key value) := by
  induction t with
  | nil => exact List.pairwise_singleton _ _
  | cons e t ih =>
      obtain ⟨k, v⟩ := e
      obtain ⟨hfirst, hrest⟩ := List.pairwise_cons.mp h
      rw [insert]
      split_ifs with hlt heq
      · refine List.pairwise_cons.mpr ⟨fun e he => ?_, h⟩
        rcases List.mem_cons.mp he with rfl | he
        · exact hlt
        · exact hlt.trans (hfirst e he)
      · subst heq
        exact List.pairwise_cons.mpr ⟨hfirst, hrest⟩
      · refine List.pairwise_cons.mpr ⟨fun e he => ?_, ih hrest⟩
        rcases mem_insert he with rfl | he
        · exact lt_of_le_of_ne (not_lt.mp hlt) (Ne.symm heq)
        · exact hfirst e he

/-- An entry behind the last one is written at the end. -/
lemma Sorted.insert_last {key : String} {value : α} (h : Sorted (t ++ (key, value) :: t')) :
    t.insert key value = t ++ [(key, value)] := by
  induction t with
  | nil => rfl
  | cons e t ih =>
      obtain ⟨k, v⟩ := e
      obtain ⟨hfirst, hrest⟩ := List.pairwise_cons.mp h
      have hlt : k < key := hfirst (key, value) (by simp)
      rw [insert, if_neg (not_lt.mpr hlt.le), if_neg hlt.ne', ih hrest, List.cons_append]

lemma insert_perm {key : String} (value : α) (h : key ∉ t.map Prod.fst) :
    (t.insert key value).Perm ((key, value) :: t) := by
  induction t with
  | nil => exact List.Perm.refl _
  | cons e t ih =>
      obtain ⟨k, v⟩ := e
      rw [List.map_cons, List.mem_cons, not_or] at h
      rw [insert, if_neg h.1]
      split_ifs
      · exact List.Perm.refl _
      · exact ((ih h.2).cons _).trans (List.Perm.swap _ _ _)

/-! ## Tables of entries -/

lemma sorted_foldl_insert (entries : List (String × α)) (h : Sorted t) :
    Sorted (entries.foldl (fun t e => t.insert e.1 e.2) t) := by
  induction entries generalizing t with
  | nil => exact h
  | cons e entries ih => exact ih (sorted_insert h e.1 e.2)

lemma foldl_insert_perm {entries : List (String × α)}
    (h : ((entries ++ t).map Prod.fst).Nodup) :
    (entries.foldl (fun t e => t.insert e.1 e.2) t).Perm (entries ++ t) := by
  induction entries generalizing t with
  | nil => exact List.Perm.refl _
  | cons e entries ih =>
      rw [List.cons_append, List.map_cons, List.nodup_cons, List.map_append, List.mem_append,
        not_or] at h
      have hinsert : (t.insert e.1 e.2).Perm (e :: t) := insert_perm e.2 h.1.2
      have hperm : (entries ++ t.insert e.1 e.2).Perm (e :: (entries ++ t)) :=
        (hinsert.append_left entries).trans List.perm_middle
      refine (ih ?_).trans hperm
      rw [(hperm.map Prod.fst).nodup_iff, List.map_cons, List.map_append, List.nodup_cons,
        List.mem_append, not_or]
      exact h

/-- What is found after several writes was written or was there before. -/
lemma get?_foldl_insert_cases (entries : List (String × α)) {key : String} {value : α}
    (h : get? (entries.foldl (fun t e => t.insert e.1 e.2) t) key = some value) :
    (key, value) ∈ entries ∨ t.get? key = some value := by
  induction entries generalizing t with
  | nil => exact .inr h
  | cons e entries ih =>
      rcases ih h with hmem | hget
      · exact .inl (List.mem_cons_of_mem e hmem)
      · by_cases hkey : key = e.1
        · subst hkey
          rw [get?_insert_self] at hget
          cases hget
          exact .inl List.mem_cons_self
        · rw [get?_insert_of_ne t e.2 hkey] at hget
          exact .inr hget

/-- A key that was written, or was there before, is found after several writes. -/
lemma exists_get?_foldl_insert (entries : List (String × α)) {key : String}
    (h : key ∈ entries.map Prod.fst ∨ ∃ value, t.get? key = some value) :
    ∃ value, get? (entries.foldl (fun t e => t.insert e.1 e.2) t) key = some value := by
  induction entries generalizing t with
  | nil => exact h.resolve_left List.not_mem_nil
  | cons e entries ih =>
      refine ih ?_
      by_cases hkey : key = e.1
      · exact .inr ⟨e.2, by rw [hkey, get?_insert_self]⟩
      · rw [get?_insert_of_ne t e.2 hkey]
        exact h.imp_left fun hmem => (List.mem_cons.mp hmem).resolve_left hkey

/-- **A table holds nothing but its entries.** -/
theorem mem_of_get?_ofList {entries : List (String × α)} {key : String} {value : α}
    (h : (ofList entries).get? key = some value) : (key, value) ∈ entries :=
  (get?_foldl_insert_cases entries h).resolve_right nofun

/-- A table holds one of the entries of each key. -/
lemma exists_get?_ofList {entries : List (String × α)} {e : String × α} (h : e ∈ entries) :
    ∃ value, (ofList entries).get? e.1 = some value :=
  exists_get?_foldl_insert entries (.inl (List.mem_map_of_mem h))

/-- **A table holds all of its entries exactly if no two of them clash.** -/
theorem forall_get?_ofList_iff {entries : List (String × α)} :
    (∀ key value, (key, value) ∈ entries → (ofList entries).get? key = some value) ↔
      ∀ key value value', (key, value) ∈ entries → (key, value') ∈ entries → value = value' := by
  constructor
  · intro h key value value' hmem hmem'
    have hsame := (h key value hmem).symm.trans (h key value' hmem')
    exact Option.some.inj hsame
  · intro h key value hmem
    obtain ⟨value', hget⟩ := exists_get?_ofList hmem
    rw [hget, h key value value' hmem (mem_of_get?_ofList hget)]

/-- The table of entries is sorted. -/
theorem sorted_ofList (entries : List (String × α)) : Sorted (ofList entries) :=
  sorted_foldl_insert entries List.Pairwise.nil

/-- **Entries of different keys are all in their table.** -/
theorem ofList_perm {entries : List (String × α)} (h : (entries.map Prod.fst).Nodup) :
    (ofList entries).Perm entries := by
  have hperm : (ofList entries).Perm (entries ++ []) :=
    foldl_insert_perm (by rwa [List.append_nil])
  rwa [List.append_nil] at hperm

end Blockflow.Table
