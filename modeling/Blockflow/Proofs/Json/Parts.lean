import Blockflow.Proofs.Json.Accepted

/-!
# Records around their parts

A record adds one level around the values of its fields.  Texts, words and counts do not nest and
hold no floating-point numbers, so that how deeply the whole nests, and whether it is read back, is
decided by the few fields that hold more.

* `Json.Flat`, `Field.Flat` — values that neither nest nor hold a floating-point number.
* `Fields.Embeds`, `Codec.Embeds` — what is written around parts, and flat but for them.
* **`Codec.Embeds.record`**, `Codec.embeds_list`, `Codec.embeds_table` — records, lists and tables.
-/

namespace Blockflow.Json

variable {α β σ : Type}

/-- A value without items, members and floating-point numbers. -/
def Flat : Json → Prop
  | .null | .bool _ | .number (.int _) | .text _ => True
  | _ => False

lemma Flat.depth {v : Json} (h : v.Flat) : v.depth = 0 := by
  unfold Flat at h
  split at h
  case h_5 => cases h
  all_goals rfl

lemma Flat.floatsLegible {v : Json} (h : v.Flat) : v.FloatsLegible := by
  unfold Flat at h
  intro x hx
  split at h
  case h_5 => cases h
  all_goals simp [numbers] at hx

/-- A field whose values are flat. -/
def Field.Flat (f : Field α) : Prop := ∀ x, (f.codec.write x).Flat

/-- A field that is always written. -/
def Field.Always (f : Field α) : Prop := ∀ x, f.written x = true

namespace Field

variable {c : Codec α}

lemma flat_required (name : String) (h : ∀ x, (c.write x).Flat) : (required name c).Flat := h

lemma flat_optional (name : String) (h : ∀ x, (c.write x).Flat) : (optional name c).Flat
  | none => trivial
  | some x => h x

lemma always_required (name : String) (c : Codec α) : (required name c).Always := fun _ => rfl

lemma always_defaulted (name : String) (c : Codec α) (fallback : α) :
    (defaulted name c fallback).Always := fun _ => rfl

end Field

/-- What the fields write is flat but for some parts. -/
structure Fields.Embeds (fs : Fields σ α) (names : List String) (parts : α → List Json) :
    Prop where
  keys : ∀ x, ((fs.write x).map Prod.fst).Sublist names
  values : ∀ x (Q : Json → Prop), (∀ v, v.Flat → Q v) →
    ((∀ m ∈ fs.write x, Q m.2) ↔ ∀ v ∈ parts x, Q v)

namespace Fields

variable {fs : Fields σ α} {names : List String} {parts : α → List Json} {f : Field β}

lemma embeds_done : done.Embeds [] fun _ => [] where
  keys _ := List.Sublist.refl _
  values _ _ _ := by simp [done]

/-- A field in front that does not nest. -/
lemma Embeds.flat (hf : f.Flat) (h : fs.Embeds names parts) :
    (cons f fs).Embeds (f.name :: names) fun x => parts x.2 where
  keys := keys_cons h.keys
  values x Q hQ := by
    rw [← h.values x.2 Q hQ]
    simp only [cons]
    split_ifs with hwritten
    · simp [hQ _ (hf x.1)]
    · rfl

/-- A field in front that may nest. -/
lemma Embeds.part (hf : f.Always) (h : fs.Embeds names parts) :
    (cons f fs).Embeds (f.name :: names) fun x => f.codec.write x.1 :: parts x.2 where
  keys := keys_cons h.keys
  values x Q hQ := by
    rw [List.forall_mem_cons, ← h.values x.2 Q hQ]
    simp [cons, hf x.1]

end Fields

/-- What a codec writes is one level around parts. -/
structure Codec.Embeds (c : Codec α) (parts : α → List Json) : Prop where
  depth_le_iff : ∀ x n, (c.write x).depth ≤ n + 1 ↔ ∀ v ∈ parts x, v.depth ≤ n
  floatsLegible_iff : ∀ x, (c.write x).FloatsLegible ↔ ∀ v ∈ parts x, v.FloatsLegible

namespace Codec

lemma flat_text (s : String) : (text.write s).Flat := trivial

lemma flat_natural (limit : Nat) (wanted : String) (n : Nat) :
    ((natural limit wanted).write n).Flat := trivial

lemma flat_words (entries : List (String × α)) (word : α → String) (x : α) :
    ((words entries word).write x).Flat := trivial

/-- **A record is written around the parts of its fields.** -/
theorem Embeds.record {expecting : String} {fs : Fields σ α} {make : α → β} {split : β → α}
    {names : List String} {parts : α → List Json} (h : fs.Embeds names parts)
    (hnames : names.Nodup) :
    (record expecting fs make split).Embeds fun x => parts (split x) where
  depth_le_iff x n := by
    rw [← h.values (split x) (fun v => v.depth ≤ n) fun v hv => by simp [hv.depth]]
    exact depth_ofList_le_iff _ (hnames.sublist (h.keys _))
  floatsLegible_iff x := by
    rw [← h.values (split x) FloatsLegible fun v hv => hv.floatsLegible]
    exact floatsLegible_ofList_iff (hnames.sublist (h.keys _))

lemma embeds_list (c : Codec α) : c.list.Embeds (List.map c.write) where
  depth_le_iff xs n := by
    have hwrite : c.list.write xs = .array (xs.map c.write) := rfl
    rw [hwrite, depth, Nat.succ_le_succ_iff, depthItems_le_iff]
  floatsLegible_iff xs := by
    have hwrite : c.list.write xs = .array (xs.map c.write) := rfl
    rw [hwrite, floatsLegible_array_iff]

@[simp] lemma object_write (ms : Json.Object) : object.write ms = .object ms := by
  change Json.object (Table.mapValues (fun v => v) ms) = _
  simp [Table.mapValues]

lemma embeds_table (c : Codec α) : c.table.Embeds (List.map fun e => c.write e.2) where
  depth_le_iff t n := by
    have hwrite : c.table.write t = .object (t.mapValues c.write) := rfl
    rw [hwrite, depth, Nat.succ_le_succ_iff, depthMembers_le_iff, Table.mapValues]
    simp only [List.forall_mem_map]
  floatsLegible_iff t := by
    have hwrite : c.table.write t = .object (t.mapValues c.write) := rfl
    rw [hwrite, floatsLegible_object_iff, Table.mapValues]
    simp only [List.forall_mem_map]

end Codec

end Blockflow.Json
