import Blockflow.Proofs.Decimal
import Blockflow.Proofs.Json.Text
import Blockflow.Proofs.Table

/-!
# Values and their drafts

A value is canonical when its objects are sorted, its integers fit and its floating-point numbers
are finite.  A canonical value is the value of its own draft, and how deeply it nests decides alone
whether a text with so much room left may hold it.

* `Json.Canonical`, `Draft.Proper` — canonical values, and drafts that hold no other numbers.
* `Source.Admits`, `Source.within` — how deeply a source lets values nest, and what reading gives
  if that is all that can be wrong.
* **`Draft.fault?_ofJson`**, **`Draft.value_ofJson`** — the draft of a canonical value.
* **`Draft.canonical_value`**, **`Draft.depth_value`** — the value of a proper draft is canonical,
  and nests no deeper than its source lets it.
-/

namespace Blockflow.Json

/-! ## Depth of a source -/

namespace Source

/-- Whether a source lets a value nest so deeply. -/
def Admits : Source → Nat → Prop
  | .text room, depth => depth ≤ room - 1
  | _, _ => True

instance Admits.decidable : (source : Source) → (depth : Nat) → Decidable (source.Admits depth)
  | .text room, depth => inferInstanceAs (Decidable (depth ≤ room - 1))
  | .value, _ => isTrue trivial
  | .buffered, _ => isTrue trivial
  | .settings, _ => isTrue trivial

/-- The source one level further in. -/
def inside : Source → Source
  | .text room => .text (room - 1)
  | s => s

/-- What is read where nothing but the depth can be wrong. -/
def within {α : Type} (source : Source) (depth : Nat) (x : α) : Except Fault α :=
  if source.Admits depth then .ok x else .error .tooDeep

/-- The fault of a value with which nothing but the depth can be wrong. -/
def fault (source : Source) (depth : Nat) : Option Fault :=
  if source.Admits depth then none else some .tooDeep

variable {α β : Type} {source : Source} {a b depth : Nat}

lemma admits_zero (source : Source) : source.Admits 0 := by
  cases source <;> simp [Admits]

lemma admits_max : source.Admits (max a b) ↔ source.Admits a ∧ source.Admits b := by
  cases source <;> simp [Admits]

lemma admits_succ (n : Nat) :
    source.Admits (n + 1) ↔ source.Admits 1 ∧ source.inside.Admits n := by
  cases source <;> simp [Admits, inside]
  omega

lemma enter_eq (source : Source) : source.enter = source.within 1 source.inside := by
  cases source with
  | text room =>
      by_cases hroom : room ≤ 1
      · simp [enter, within, Admits, hroom]
      · have hdeep : (1 : Nat) ≤ room - 1 := by omega
        simp [enter, within, Admits, hroom, hdeep, inside]
  | value => rfl
  | buffered => rfl
  | settings => rfl

@[simp] lemma within_zero (x : α) : source.within 0 x = .ok x := by
  simp [within, admits_zero]

lemma within_of_admits (h : source.Admits depth) (x : α) : source.within depth x = .ok x :=
  if_pos h

lemma within_of_not_admits (h : ¬ source.Admits depth) (x : α) :
    source.within depth x = .error .tooDeep :=
  if_neg h

@[simp] lemma map_within (f : α → β) (x : α) :
    (source.within depth x).map f = source.within depth (f x) := by
  unfold within
  split_ifs <;> rfl

/-- What is read inside, one level deeper. -/
lemma enter_bind {k : Source → Except Fault α} {x : α}
    (h : ∀ inner : Source, k inner = inner.within depth x) :
    source.enter.bind k = source.within (depth + 1) x := by
  rw [enter_eq]
  by_cases hadmits : source.Admits 1
  · rw [within_of_admits hadmits]
    refine (h _).trans ?_
    simp only [within, admits_succ depth, hadmits, true_and]
  · have hdeep : ¬ source.Admits (depth + 1) := fun h => hadmits ((admits_succ depth).mp h).1
    rw [within_of_not_admits hadmits, within_of_not_admits hdeep]
    rfl

/-- A part and what is read behind it. -/
lemma within_bind {x : α} {y : β} {k : α → Except Fault β} (h : k x = source.within b y) :
    (source.within a x).bind k = source.within (max a b) y := by
  unfold within at h ⊢
  simp only [admits_max]
  by_cases ha : source.Admits a
  · simp only [ha, if_true, true_and]
    exact h
  · simp only [ha, if_false, false_and]
    rfl

@[simp] lemma fault_zero : source.fault 0 = none := by
  simp [fault, admits_zero]

lemma fault_or : (source.fault a).or (source.fault b) = source.fault (max a b) := by
  unfold fault
  by_cases ha : source.Admits a <;> by_cases hb : source.Admits b <;> simp [admits_max, ha, hb]

/-- How deeply what is read from a draft of this depth can nest. -/
def limit : Source → Nat → Nat
  | .text room, _ => room - 1
  | _, depth => depth

lemma limit_mono (h : a ≤ b) : source.limit a ≤ source.limit b := by
  cases source <;> simp [limit, h]

lemma limit_inside (h : source.Admits 1) :
    source.inside.limit depth + 1 ≤ source.limit (depth + 1) := by
  cases source <;> simp_all [limit, inside, Admits]

lemma fault_succ (h : source.Admits 1) :
    source.fault (depth + 1) = source.inside.fault depth := by
  simp [fault, admits_succ depth, h]

lemma fault_succ_of_not_admits (h : ¬ source.Admits 1) :
    source.fault (depth + 1) = some .tooDeep := by
  simp [fault, admits_succ depth, h]

end Source

lemma depthItems_le_iff {xs : List Json} {n : Nat} :
    depthItems xs ≤ n ↔ ∀ x ∈ xs, x.depth ≤ n := by
  induction xs with
  | nil => simp [depthItems]
  | cons x xs ih => simp [depthItems, ih]

lemma depthMembers_le_iff {ms : List (String × Json)} {n : Nat} :
    depthMembers ms ≤ n ↔ ∀ m ∈ ms, m.2.depth ≤ n := by
  induction ms with
  | nil => simp [depthMembers]
  | cons m ms ih =>
      obtain ⟨k, x⟩ := m
      simp [depthMembers, ih]

/-! ## Canonical values -/

mutual

/-- A value with sorted objects, fitting integers and finite floating-point numbers. -/
def Canonical : Json → Prop
  | .number n => n.Proper
  | .array xs => CanonicalItems xs
  | .object ms => Table.Sorted ms ∧ CanonicalMembers ms
  | _ => True

/-- Canonical items. -/
def CanonicalItems : List Json → Prop
  | [] => True
  | x :: xs => Canonical x ∧ CanonicalItems xs

/-- Canonical members. -/
def CanonicalMembers : List (String × Json) → Prop
  | [] => True
  | (_, x) :: ms => Canonical x ∧ CanonicalMembers ms

end

lemma canonicalItems_iff {xs : List Json} : CanonicalItems xs ↔ ∀ x ∈ xs, x.Canonical := by
  induction xs with
  | nil => simp [CanonicalItems]
  | cons x xs ih => simp [CanonicalItems, ih]

lemma canonicalMembers_iff {ms : List (String × Json)} :
    CanonicalMembers ms ↔ ∀ m ∈ ms, m.2.Canonical := by
  induction ms with
  | nil => simp [CanonicalMembers]
  | cons m ms ih =>
      obtain ⟨k, x⟩ := m
      simp [CanonicalMembers, ih]

mutual

/-- The numbers of a canonical value are proper. -/
lemma Canonical.proper_of_mem : (v : Json) → v.Canonical → ∀ n ∈ v.numbers, n.Proper
  | .null, _ => by simp [numbers]
  | .bool _, _ => by simp [numbers]
  | .number n, h => by simpa [numbers, Canonical] using h
  | .text _, _ => by simp [numbers]
  | .array xs, h => CanonicalItems.proper_of_mem xs h
  | .object ms, h => CanonicalMembers.proper_of_mem ms h.2

lemma CanonicalItems.proper_of_mem : (xs : List Json) → CanonicalItems xs →
    ∀ n ∈ numbersItems xs, n.Proper
  | [], _ => by simp [numbersItems]
  | x :: xs, h => fun n hn =>
      (List.mem_append.mp hn).elim (Canonical.proper_of_mem x h.1 n)
        (CanonicalItems.proper_of_mem xs h.2 n)

lemma CanonicalMembers.proper_of_mem : (ms : List (String × Json)) → CanonicalMembers ms →
    ∀ n ∈ numbersMembers ms, n.Proper
  | [], _ => by simp [numbersMembers]
  | (_, x) :: ms, h => fun n hn =>
      (List.mem_append.mp hn).elim (Canonical.proper_of_mem x h.1 n)
        (CanonicalMembers.proper_of_mem ms h.2 n)

end

/-- A value whose floating-point numbers are read back from their numerals. -/
def FloatsLegible (v : Json) : Prop := ∀ x, .float x ∈ v.numbers → (Number.float x).Legible

lemma mem_numbersMembers_iff {ms : List (String × Json)} {n : Number} :
    n ∈ numbersMembers ms ↔ ∃ m ∈ ms, n ∈ m.2.numbers := by
  induction ms with
  | nil => simp [numbersMembers]
  | cons m ms ih =>
      obtain ⟨k, x⟩ := m
      simp [numbersMembers, ih]

lemma floatsLegible_object_iff {ms : List (String × Json)} :
    (Json.object ms).FloatsLegible ↔ ∀ m ∈ ms, m.2.FloatsLegible := by
  simp only [FloatsLegible, numbers, mem_numbersMembers_iff, forall_exists_index, and_imp]
  exact ⟨fun hall m hm x hx => hall x m hm hx, fun hall x m hm hx => hall m hm x hx⟩

lemma floatsLegible_array_iff {xs : List Json} :
    (Json.array xs).FloatsLegible ↔ ∀ v ∈ xs, v.FloatsLegible := by
  simp only [FloatsLegible, numbers]
  induction xs with
  | nil => simp [numbersItems]
  | cons v xs ih =>
      rw [List.forall_mem_cons, ← ih]
      simp only [numbersItems, List.mem_append, or_imp, forall_and]

/-- The numbers of an object of different keys are those of its members. -/
lemma floatsLegible_ofList_iff {members : List (String × Json)}
    (h : (members.map Prod.fst).Nodup) :
    (Json.object (Table.ofList members)).FloatsLegible ↔ ∀ m ∈ members, m.2.FloatsLegible := by
  simp only [floatsLegible_object_iff, (Table.ofList_perm h).mem_iff]

/-- A canonical value is legible when its floating-point numbers are. -/
theorem Canonical.legible {v : Json} (h : v.Canonical) (hfloats : v.FloatsLegible) :
    v.Legible := by
  intro n hn
  cases n with
  | int n => exact legible_int (h.proper_of_mem v _ hn)
  | float x => exact hfloats x hn

/-! ## Proper drafts -/

mutual

/-- A draft whose numbers values can hold. -/
def Draft.Proper : Draft → Prop
  | .number n => n.Proper
  | .array items => Draft.ProperItems items
  | .object members => Draft.ProperMembers members
  | _ => True

/-- Proper items. -/
def Draft.ProperItems : List Draft → Prop
  | [] => True
  | d :: ds => Draft.Proper d ∧ Draft.ProperItems ds

/-- Proper members. -/
def Draft.ProperMembers : List (Draft.Key × Draft) → Prop
  | [] => True
  | (_, d) :: ms => Draft.Proper d ∧ Draft.ProperMembers ms

end

/-! ## The draft of a value -/

mutual

/-- The draft of a canonical value is proper. -/
lemma Draft.proper_ofJson : (v : Json) → v.Canonical → (Draft.ofJson v).Proper
  | .null, _ => trivial
  | .bool _, _ => trivial
  | .number _, h => h
  | .text _, _ => trivial
  | .array xs, h => Draft.properItems_ofItems xs h
  | .object ms, h => Draft.properMembers_ofMembers ms h.2

lemma Draft.properItems_ofItems : (xs : List Json) → CanonicalItems xs →
    Draft.ProperItems (Draft.ofItems xs)
  | [], _ => trivial
  | x :: xs, h => ⟨Draft.proper_ofJson x h.1, Draft.properItems_ofItems xs h.2⟩

lemma Draft.properMembers_ofMembers : (ms : List (String × Json)) → CanonicalMembers ms →
    Draft.ProperMembers (Draft.ofMembers ms)
  | [], _ => trivial
  | (_, x) :: ms, h => ⟨Draft.proper_ofJson x h.1, Draft.properMembers_ofMembers ms h.2⟩

end

mutual

/-- **A value has no fault but its depth.** -/
theorem Draft.fault?_ofJson (source : Source) : (v : Json) →
    (Draft.ofJson v).fault? source = source.fault v.depth
  | .null => by simp [Draft.ofJson, Draft.fault?, depth]
  | .bool _ => by simp [Draft.ofJson, Draft.fault?, depth]
  | .number _ => by simp [Draft.ofJson, Draft.fault?, depth]
  | .text _ => by simp [Draft.ofJson, Draft.fault?, depth]
  | .array xs => by
      rw [Draft.ofJson, Draft.fault?, Source.enter_eq, depth]
      by_cases h : source.Admits 1
      · rw [Source.within_of_admits h, Source.fault_succ h]
        exact Draft.faultItems?_ofItems source.inside xs
      · rw [Source.within_of_not_admits h, Source.fault_succ_of_not_admits h]
  | .object ms => by
      rw [Draft.ofJson, Draft.fault?, Source.enter_eq, depth]
      by_cases h : source.Admits 1
      · rw [Source.within_of_admits h, Source.fault_succ h]
        exact Draft.faultMembers?_ofMembers source.inside ms
      · rw [Source.within_of_not_admits h, Source.fault_succ_of_not_admits h]

lemma Draft.faultItems?_ofItems (source : Source) : (xs : List Json) →
    Draft.faultItems? source (Draft.ofItems xs) = source.fault (depthItems xs)
  | [] => by simp [Draft.ofItems, Draft.faultItems?, depthItems]
  | x :: xs => by
      rw [Draft.ofItems, Draft.faultItems?, Draft.fault?_ofJson source x,
        Draft.faultItems?_ofItems source xs, depthItems, Source.fault_or]

lemma Draft.faultMembers?_ofMembers (source : Source) : (ms : List (String × Json)) →
    Draft.faultMembers? source (Draft.ofMembers ms) = source.fault (depthMembers ms)
  | [] => by simp [Draft.ofMembers, Draft.faultMembers?, depthMembers]
  | (k, x) :: ms => by
      rw [Draft.ofMembers, Draft.faultMembers?, Draft.fault?_ofJson source x,
        Draft.faultMembers?_ofMembers source ms, depthMembers, Source.fault_or]

end

mutual

/-- **A canonical value is the value of its draft.** -/
theorem Draft.value_ofJson : (v : Json) → v.Canonical → (Draft.ofJson v).value = v
  | .null, _ => rfl
  | .bool _, _ => rfl
  | .number (.int _), _ => rfl
  | .number (.float x), h => by
      have hfinite : x.isFinite = true := h
      simp [Draft.ofJson, Draft.value, float, hfinite]
  | .text _, _ => rfl
  | .array xs, h => by
      rw [Draft.ofJson, Draft.value, Draft.valueItems_ofItems xs h]
  | .object ms, h => by
      rw [Draft.ofJson, Draft.value, Draft.valueMembers_ofMembers ms h.2 [] h.1, List.nil_append]

lemma Draft.valueItems_ofItems : (xs : List Json) → CanonicalItems xs →
    Draft.valueItems (Draft.ofItems xs) = xs
  | [], _ => rfl
  | x :: xs, h => by
      rw [Draft.ofItems, Draft.valueItems, Draft.value_ofJson x h.1,
        Draft.valueItems_ofItems xs h.2]

lemma Draft.valueMembers_ofMembers : (ms : List (String × Json)) → CanonicalMembers ms →
    ∀ acc : Object, Table.Sorted (acc ++ ms) →
      Draft.valueMembers acc (Draft.ofMembers ms) = acc ++ ms
  | [], _, acc, _ => by simp [Draft.ofMembers, Draft.valueMembers]
  | (k, x) :: ms, h, acc, hsorted => by
      rw [Draft.ofMembers, Draft.valueMembers, Draft.value_ofJson x h.1,
        Table.Sorted.insert_last hsorted, Draft.valueMembers_ofMembers ms h.2 _ (by simpa),
        List.append_assoc, List.singleton_append]

end

/-! ## The value of a draft -/

mutual

/-- **The value of a proper draft is canonical.** -/
theorem Draft.canonical_value : (d : Draft) → d.Proper → d.value.Canonical
  | .null, _ => trivial
  | .bool _, _ => trivial
  | .number (.int _), h => h
  | .number (.float x), _ => by
      rw [Draft.value, float]
      split_ifs with hfinite
      · exact hfinite
      · trivial
  | .text _, _ => trivial
  | .array items, h => Draft.canonicalItems_valueItems items h
  | .object members, h => by
      have hmembers := Draft.canonical_valueMembers members h [] List.Pairwise.nil (by simp)
      exact ⟨hmembers.1, canonicalMembers_iff.mpr hmembers.2⟩
  | .unreadable _, _ => trivial
  | .broken _, _ => trivial

lemma Draft.canonicalItems_valueItems : (items : List Draft) → Draft.ProperItems items →
    CanonicalItems (Draft.valueItems items)
  | [], _ => trivial
  | d :: ds, h => ⟨Draft.canonical_value d h.1, Draft.canonicalItems_valueItems ds h.2⟩

lemma Draft.canonical_valueMembers : (members : List (Draft.Key × Draft)) →
    Draft.ProperMembers members → ∀ acc : Object, Table.Sorted acc →
      (∀ m ∈ acc, m.2.Canonical) →
      Table.Sorted (Draft.valueMembers acc members) ∧
        ∀ m ∈ Draft.valueMembers acc members, m.2.Canonical
  | [], _, _, hsorted, hacc => ⟨hsorted, hacc⟩
  | (.text k, d) :: ms, h, _, hsorted, hacc =>
      Draft.canonical_valueMembers ms h.2 _ (Table.sorted_insert hsorted k d.value) fun m hm =>
        (Table.mem_insert hm).elim (fun heq => heq ▸ Draft.canonical_value d h.1) (hacc m)
  | (.unreadable _, _) :: ms, h, acc, hsorted, hacc =>
      Draft.canonical_valueMembers ms h.2 acc hsorted hacc

end

mutual

/-- How deeply the arrays and objects of a draft nest. -/
def Draft.depth : Draft → Nat
  | .array items => Draft.depthItems items + 1
  | .object members => Draft.depthMembers members + 1
  | _ => 0

/-- The greatest depth among the items. -/
def Draft.depthItems : List Draft → Nat
  | [] => 0
  | d :: ds => max (Draft.depth d) (Draft.depthItems ds)

/-- The greatest depth among the members. -/
def Draft.depthMembers : List (Draft.Key × Draft) → Nat
  | [] => 0
  | (_, d) :: ms => max (Draft.depth d) (Draft.depthMembers ms)

end

mutual

/-- The draft of a value nests as deeply as the value. -/
lemma Draft.depth_ofJson : (v : Json) → (Draft.ofJson v).depth = v.depth
  | .null => rfl
  | .bool _ => rfl
  | .number _ => rfl
  | .text _ => rfl
  | .array xs => by rw [Draft.ofJson, Draft.depth, Draft.depthItems_ofItems xs, Json.depth]
  | .object ms => by rw [Draft.ofJson, Draft.depth, Draft.depthMembers_ofMembers ms, Json.depth]

lemma Draft.depthItems_ofItems : (xs : List Json) →
    Draft.depthItems (Draft.ofItems xs) = Json.depthItems xs
  | [] => rfl
  | x :: xs => by
      rw [Draft.ofItems, Draft.depthItems, Draft.depth_ofJson x, Draft.depthItems_ofItems xs,
        Json.depthItems]

lemma Draft.depthMembers_ofMembers : (ms : List (String × Json)) →
    Draft.depthMembers (Draft.ofMembers ms) = Json.depthMembers ms
  | [] => rfl
  | (k, x) :: ms => by
      rw [Draft.ofMembers, Draft.depthMembers, Draft.depth_ofJson x,
        Draft.depthMembers_ofMembers ms, Json.depthMembers]

end

lemma Source.limit_max_left {source : Source} {a b n : Nat} (h : source.limit (max a b) ≤ n) :
    source.limit a ≤ n :=
  (Source.limit_mono (le_max_left a b)).trans h

lemma Source.limit_max_right {source : Source} {a b n : Nat} (h : source.limit (max a b) ≤ n) :
    source.limit b ≤ n :=
  (Source.limit_mono (le_max_right a b)).trans h

/-- Inside an array or object of a draft without faults, the source was entered. -/
lemma Source.admits_of_enter {source inner : Source} (h : source.enter = .ok inner) :
    source.Admits 1 ∧ inner = source.inside := by
  rw [Source.enter_eq] at h
  by_cases hadmits : source.Admits 1
  · rw [Source.within_of_admits hadmits] at h
    exact ⟨hadmits, (Except.ok.inj h).symm⟩
  · rw [Source.within_of_not_admits hadmits] at h
    cases h

mutual

/-- **The value of a draft without faults nests no deeper than its source lets it.** -/
theorem Draft.depth_value (source : Source) : (d : Draft) → d.fault? source = none →
    d.value.depth ≤ source.limit d.depth
  | .null, _ => Nat.zero_le _
  | .bool _, _ => Nat.zero_le _
  | .number (.int _), _ => Nat.zero_le _
  | .number (.float x), _ => by
      rw [Draft.value, float]
      split_ifs <;> exact Nat.zero_le _
  | .text _, _ => Nat.zero_le _
  | .array items, h => by
      rw [Draft.fault?] at h
      split at h
      · cases h
      · rename_i inner henter
        obtain ⟨hadmits, rfl⟩ := Source.admits_of_enter henter
        rw [Draft.value, Json.depth, Draft.depth]
        exact (Nat.succ_le_succ (Draft.depth_valueItems _ items h)).trans
          (Source.limit_inside hadmits)
  | .object members, h => by
      rw [Draft.fault?] at h
      split at h
      · cases h
      · rename_i inner henter
        obtain ⟨hadmits, rfl⟩ := Source.admits_of_enter henter
        rw [Draft.value, Json.depth, Draft.depth]
        refine (Nat.succ_le_succ (depthMembers_le_iff.mpr ?_)).trans (Source.limit_inside hadmits)
        exact Draft.depth_valueMembers _ members h _ le_rfl [] (by simp)
  | .unreadable _, _ => Nat.zero_le _
  | .broken _, _ => Nat.zero_le _

lemma Draft.depth_valueItems (source : Source) : (items : List Draft) →
    Draft.faultItems? source items = none →
      Json.depthItems (Draft.valueItems items) ≤ source.limit (Draft.depthItems items)
  | [], _ => Nat.zero_le _
  | d :: ds, h => by
      rw [Draft.faultItems?, Option.or_eq_none_iff] at h
      rw [Draft.valueItems, Json.depthItems, Draft.depthItems, max_le_iff]
      exact ⟨(Draft.depth_value source d h.1).trans (Source.limit_max_left le_rfl),
        (Draft.depth_valueItems source ds h.2).trans (Source.limit_max_right le_rfl)⟩

lemma Draft.depth_valueMembers (source : Source) : (members : List (Draft.Key × Draft)) →
    Draft.faultMembers? source members = none →
      ∀ n, source.limit (Draft.depthMembers members) ≤ n → ∀ acc : Object,
        (∀ m ∈ acc, m.2.depth ≤ n) → ∀ m ∈ Draft.valueMembers acc members, m.2.depth ≤ n
  | [], _, _, _, _, hacc => hacc
  | (.text k, d) :: ms, h, n, hn, acc, hacc => by
      rw [Draft.faultMembers?, Option.or_eq_none_iff] at h
      rw [Draft.depthMembers] at hn
      have hd := (Draft.depth_value source d h.1).trans (Source.limit_max_left hn)
      refine Draft.depth_valueMembers source ms h.2 n (Source.limit_max_right hn) _ fun m hm => ?_
      rcases Table.mem_insert hm with rfl | hm
      · exact hd
      · exact hacc m hm
  | (.unreadable _, _) :: _, h, _, _, _, _ => by
      rw [Draft.faultMembers?] at h
      cases h

end

end Blockflow.Json
