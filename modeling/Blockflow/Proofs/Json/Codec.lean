import Blockflow.Proofs.Json.Canonical

/-!
# Codecs read back what they wrote

A codec restores a type when every value that it writes is read back, from any source that lets
the written value nest so deeply; from another source, reading ends with that fault and no other.
Few codecs write something that is read back as something else.  The law goes from the codecs of
parts to the codec of the whole, so that each record states only what its fields ask for.

* `Codec.ReadsBack`, `Codec.Restores` — the law, for the values of a type that satisfy a predicate.
* `Codec.restores_json`, `Codec.restores_text`, …, `Codec.ReadsBack.list`,
  `Codec.ReadsBack.table` — plain types.
* `Field.ReadsBack`, `Fields.ReadsBack` — the law for the fields of a record.
* **`Codec.ReadsBack.record`**, `Codec.ReadsBack.refine` — records and checked types.
* **`Codec.ReadsBack.decode`**, `Codec.ReadsBack.ofJson` — whole texts and values.
-/

namespace Blockflow.Json

variable {α β σ : Type}

/-- What a codec writes of `x` is canonical, and read back as `g x` wherever it may nest so
deeply. -/
structure Codec.ReadsBack (c : Codec α) (P : α → Prop) (g : α → α) : Prop where
  read_write : ∀ x, P x → ∀ source,
    c.read source (Draft.ofJson (c.write x)) = source.within (c.write x).depth (g x)
  canonical : ∀ x, P x → (c.write x).Canonical

/-- What a codec writes is read back unchanged. -/
abbrev Codec.Restores (c : Codec α) (P : α → Prop) : Prop := c.ReadsBack P fun x => x

namespace Codec

variable {c : Codec α} {P Q : α → Prop} {g : α → α}

lemma ReadsBack.mono (h : c.ReadsBack P g) (himp : ∀ x, Q x → P x) : c.ReadsBack Q g where
  read_write x hx := h.read_write x (himp x hx)
  canonical x hx := h.canonical x (himp x hx)

/-! ## Plain types -/

lemma restores_json : json.Restores Canonical where
  read_write v hv source := by
    unfold json
    simp only [Draft.fault?_ofJson, Draft.value_ofJson v hv]
    unfold Source.fault Source.within
    split_ifs <;> rfl
  canonical _ hv := hv

lemma restores_text : text.Restores fun _ => True where
  read_write s _ _ := (Source.within_zero s).symm
  canonical _ _ := trivial

lemma restores_bool : bool.Restores fun _ => True where
  read_write b _ _ := (Source.within_zero b).symm
  canonical _ _ := trivial

lemma restores_natural {limit : Nat} (wanted : String) (hlimit : limit ≤ maxInteger) :
    (natural limit wanted).Restores (· ≤ limit) where
  read_write n hn source := by
    have hread : (natural limit wanted).read source (.number (.int (.ofNat n))) = .ok n :=
      if_pos hn
    exact hread.trans (Source.within_zero n).symm
  canonical n hn := ⟨by omega, by exact_mod_cast hn.trans hlimit⟩

lemma restores_double : double.Restores fun x => x.isFinite = true where
  read_write x hx source := by
    have hwrite : double.write x = .number (.float x) := by
      simp [double, Codec.float, Json.float, Binary.convert_self hx, hx]
    rw [hwrite]
    exact (congrArg Except.ok (Binary.convert_self hx)).trans (Source.within_zero x).symm
  canonical x hx := by
    simp [double, Codec.float, Json.float, Binary.convert_self hx, hx, Canonical, Number.Proper]

lemma restores_single : single.Restores fun x => x.isFinite = true where
  read_write x hx source := by
    have hwrite : single.write x = .number (.float (x.convert .double)) := by
      simp [single, Codec.float, Json.float, (Binary.value_convert_double hx).1]
    rw [hwrite]
    exact (congrArg Except.ok (Binary.convert_convert hx)).trans (Source.within_zero x).symm
  canonical x hx := by
    simp [single, Codec.float, Json.float, (Binary.value_convert_double hx).1, Canonical,
      Number.Proper]

lemma single_write_ne_null {x : Single} (h : x.isFinite = true) : single.write x ≠ .null := by
  simp [single, Codec.float, Json.float, (Binary.value_convert_double h).1]

/-- An enumeration whose words name their values. -/
lemma restores_words {entries : List (String × α)} {word : α → String}
    (h : ∀ x, entries.lookup (word x) = some x) : (words entries word).Restores fun _ => True where
  read_write x _ source := by
    have hread : (words entries word).read source (.text (word x)) = .ok x := by
      simp [words, ofWord, h]
    exact hread.trans (Source.within_zero x).symm
  canonical _ _ := trivial

/-- Only null is read as null. -/
lemma ofJson_ne_null {v : Json} (h : v ≠ .null) : Draft.ofJson v ≠ .null := by
  cases v <;> simp_all [Draft.ofJson]

lemma option_read_of_ne_null (c : Codec α) {d : Draft} (h : d ≠ .null) (source : Source) :
    c.option.read source d = (c.read source d).map some := by
  cases d <;> first | exact absurd rfl h | rfl

lemma ReadsBack.option (h : c.Restores P) :
    c.option.Restores fun o => ∀ x ∈ o, P x ∧ c.write x ≠ .null where
  read_write o ho source := by
    cases o with
    | none => exact (Source.within_zero none).symm
    | some x =>
        obtain ⟨hx, hnull⟩ := ho x rfl
        have hwrite : c.option.write (some x) = c.write x := rfl
        rw [hwrite, option_read_of_ne_null c (ofJson_ne_null hnull), h.read_write x hx,
          Source.map_within]
  canonical o ho := by
    cases o with
    | none => trivial
    | some x => exact h.canonical x (ho x rfl).1

lemma single_write_of_not_isFinite {x : Single} (h : x.isFinite = false) :
    single.write x = .null := by
  have hconvert : (x.convert .double).isFinite = false := by
    rw [Binary.convert, if_neg (by simp [h])]
    split_ifs <;> rfl
  simp [single, Codec.float, Json.float, hconvert]

/-- A number of single width is read back if it is finite, and as nothing otherwise. -/
lemma readsBack_option_single :
    single.option.ReadsBack (fun _ => True) fun o => o.filter (·.isFinite) where
  read_write o _ source := by
    cases o with
    | none => exact (Source.within_zero none).symm
    | some x =>
        by_cases hx : x.isFinite = true
        · have hself : (some x).filter (·.isFinite) = some x := by simp [hx]
          rw [hself]
          refine restores_single.option.read_write (some x) ?_ source
          rintro y ⟨⟩
          exact ⟨hx, single_write_ne_null hx⟩
        · have hnull : single.option.write (some x) = .null :=
            single_write_of_not_isFinite (by simpa using hx)
          have hnone : (some x).filter (·.isFinite) = none := by simp [hx]
          rw [hnull, hnone]
          exact (Source.within_zero none).symm
  canonical o _ := by
    cases o with
    | none => trivial
    | some x =>
        by_cases hx : x.isFinite = true
        · exact restores_single.canonical x hx
        · have hnull : single.option.write (some x) = .null :=
            single_write_of_not_isFinite (by simpa using hx)
          rw [hnull]
          trivial

lemma readItems_cons (c : Codec α) (source : Source) (d : Draft) (ds : List Draft) :
    c.readItems source (d :: ds) =
      (c.read source d).bind fun x => (c.readItems source ds).map (x :: ·) := by
  rw [Codec.readItems]
  cases c.read source d <;> rfl

lemma list_read_array (c : Codec α) (source : Source) (items : List Draft) :
    c.list.read source (.array items) = source.enter.bind fun inner => c.readItems inner items := by
  unfold list
  dsimp only
  cases source.enter <;> rfl

lemma ReadsBack.readItems (h : c.ReadsBack P g) (source : Source) {xs : List α}
    (hxs : ∀ x ∈ xs, P x) :
    c.readItems source (Draft.ofItems (xs.map c.write)) =
      source.within (depthItems (xs.map c.write)) (xs.map g) := by
  induction xs with
  | nil => exact (Source.within_zero []).symm
  | cons x xs ih =>
      rw [List.forall_mem_cons] at hxs
      rw [List.map_cons, Draft.ofItems, readItems_cons, h.read_write x hxs.1, depthItems]
      exact Source.within_bind (by rw [ih hxs.2, Source.map_within, List.map_cons])

/-- The items of an array are read back one by one. -/
lemma ReadsBack.list (h : c.ReadsBack P g) :
    c.list.ReadsBack (fun xs => ∀ x ∈ xs, P x) (List.map g) where
  read_write xs hxs source := by
    have hwrite : c.list.write xs = .array (xs.map c.write) := rfl
    rw [hwrite, Draft.ofJson, list_read_array, depth]
    exact Source.enter_bind fun inner => h.readItems inner hxs
  canonical xs hxs := by
    refine canonicalItems_iff.mpr fun v hv => ?_
    obtain ⟨x, hx, rfl⟩ := List.mem_map.mp hv
    exact h.canonical x (hxs x hx)

lemma restores_list (h : c.Restores P) : c.list.Restores fun xs => ∀ x ∈ xs, P x where
  read_write xs hxs source := by
    rw [h.list.read_write xs hxs, List.map_id']
  canonical := h.list.canonical

lemma readMembers_cons (c : Codec α) (source : Source) (acc : Table α) (k : String) (d : Draft)
    (ms : List (Draft.Key × Draft)) :
    c.readMembers source acc ((.text k, d) :: ms) =
      (c.read source d).bind fun x => c.readMembers source (acc.insert k x) ms := by
  rw [Codec.readMembers]
  cases c.read source d <;> rfl

lemma table_read_object (c : Codec α) (source : Source) (members : List (Draft.Key × Draft)) :
    c.table.read source (.object members) =
      source.enter.bind fun inner => c.readMembers inner [] members := by
  unfold table
  dsimp only
  cases source.enter <;> rfl

lemma ReadsBack.readMembers (h : c.Restores P) (source : Source) {t : Table α} (acc : Table α)
    (hsorted : Table.Sorted (acc ++ t)) (ht : ∀ e ∈ t, P e.2) :
    c.readMembers source acc (Draft.ofMembers (t.mapValues c.write)) =
      source.within (depthMembers (t.mapValues c.write)) (acc ++ t) := by
  induction t generalizing acc with
  | nil => simp [Table.mapValues, Draft.ofMembers, Codec.readMembers, depthMembers]
  | cons e t ih =>
      obtain ⟨k, x⟩ := e
      rw [List.forall_mem_cons] at ht
      have hrest := ih (acc ++ [(k, x)]) (by simpa using hsorted) ht.2
      rw [List.append_assoc, List.singleton_append] at hrest
      rw [Table.mapValues, List.map_cons, ← Table.mapValues, Draft.ofMembers, readMembers_cons,
        h.read_write x ht.1, depthMembers]
      exact Source.within_bind (by rw [Table.Sorted.insert_last hsorted, hrest])

lemma ReadsBack.table (h : c.Restores P) :
    c.table.Restores fun t => Table.Sorted t ∧ ∀ e ∈ t, P e.2 where
  read_write t ht source := by
    have hwrite : c.table.write t = .object (t.mapValues c.write) := rfl
    rw [hwrite, Draft.ofJson, table_read_object, depth]
    exact Source.enter_bind fun inner => h.readMembers inner [] ht.1 ht.2
  canonical t ht := by
    refine ⟨Table.Sorted.mapValues ht.1 c.write, canonicalMembers_iff.mpr fun m hm => ?_⟩
    obtain ⟨e, he, rfl⟩ := List.mem_map.mp hm
    exact h.canonical e.2 (ht.2 e he)

/-- Objects with any members. -/
lemma restores_object : object.Restores fun ms => (Json.object ms).Canonical :=
  restores_json.table.mono fun _ h => ⟨h.1, canonicalMembers_iff.mp h.2⟩

end Codec

/-! ## Records -/

/-- A field is read back where it is written, and has its value to fall back on elsewhere. -/
structure Field.ReadsBack (f : Field α) (P : α → Prop) (g : α → α) : Prop where
  read_write : ∀ x, P x → f.written x = true → ∀ source,
    f.codec.read source (Draft.ofJson (f.codec.write x)) =
      source.within (f.codec.write x).depth (g x)
  canonical : ∀ x, P x → f.written x = true → (f.codec.write x).Canonical
  absent : ∀ x, P x → f.written x = false → f.ifAbsent = some (g x)

namespace Field

variable {c : Codec α} {P : α → Prop} {g : α → α}

lemma readsBack_required (name : String) (h : c.ReadsBack P g) :
    (required name c).ReadsBack P g where
  read_write x hx _ := h.read_write x hx
  canonical x hx _ := h.canonical x hx
  absent _ _ hwritten := by cases hwritten

lemma readsBack_defaulted (name : String) (fallback : α) (h : c.ReadsBack P g) :
    (defaulted name c fallback).ReadsBack P g where
  read_write x hx _ := h.read_write x hx
  canonical x hx _ := h.canonical x hx
  absent _ _ hwritten := by cases hwritten

lemma readsBack_optional_of {P : Option α → Prop} {g : Option α → Option α} (name : String)
    (h : c.option.ReadsBack P g) (hnone : g none = none) : (optional name c).ReadsBack P g where
  read_write x hx _ := h.read_write x hx
  canonical x hx _ := h.canonical x hx
  absent o _ hwritten := by
    cases o with
    | none => rw [hnone]; rfl
    | some x => cases hwritten

/-- An optional field whose values are not written as null is read back. -/
lemma readsBack_optional (name : String) (h : c.Restores P) :
    (optional name c).ReadsBack (fun o => ∀ x ∈ o, P x ∧ c.write x ≠ .null) fun o => o :=
  readsBack_optional_of name h.option rfl

end Field

/-- The fields of a record are read back from the members that they write, in any order.
`slots met x` is what was met of `x` when the members under the keys `met` were offered. -/
structure Fields.ReadsBack (fs : Fields σ α) (names : List String) (P : α → Prop) (g : α → α)
    (slots : List String → α → σ) : Prop where
  blank : ∀ x, slots [] x = fs.blank
  unknown : ∀ x met k, k ∉ names → slots (k :: met) x = slots met x
  offer : names.Nodup → ∀ x, P x → ∀ m ∈ fs.write x, ∀ met, m.1 ∉ met → ∀ source,
    fs.offer source m.1 (Draft.ofJson m.2) (slots met x) =
      some (source.within m.2.depth (slots (m.1 :: met) x))
  finish : ∀ x, P x → ∀ met, (∀ m ∈ fs.write x, m.1 ∈ met) →
    fs.finish (slots met x) = .ok (g x)
  keys : ∀ x, ((fs.write x).map Prod.fst).Sublist names
  canonical : ∀ x, P x → ∀ m ∈ fs.write x, m.2.Canonical

namespace Fields

variable {fs : Fields σ α} {names : List String} {P : α → Prop} {g : α → α}
  {slots : List String → α → σ}

lemma readsBack_done : done.ReadsBack [] (fun _ => True) (fun x => x) fun _ _ => () where
  blank _ := rfl
  unknown _ _ _ _ := rfl
  offer _ _ _ m hm := by cases hm
  finish _ _ _ _ := rfl
  keys _ := List.Sublist.refl _
  canonical _ _ m hm := by cases hm

/-- What was met of a field and of those behind it. -/
def metSlots (f : Field β) (u : β → β) (slots : List String → α → σ) (met : List String)
    (x : β × α) : Option β × σ :=
  (if f.written x.1 = true ∧ f.name ∈ met then some (u x.1) else none, slots met x.2)

variable {f : Field β} {R : β → Prop} {u : β → β}

lemma offer_cons_self (source : Source) (d : Draft) (rest : σ) :
    (cons f fs).offer source f.name d (none, rest) =
      some ((f.codec.read source d).map fun x => (some x, rest)) := by
  simp [cons]

lemma offer_cons_of_ne {key : String} (h : key ≠ f.name) (source : Source) (d : Draft)
    (slots : Option β × σ) :
    (cons f fs).offer source key d slots =
      (fs.offer source key d slots.2).map fun r => r.map fun s => (slots.1, s) := by
  simp [cons, h]

lemma mem_write_cons {x : β × α} {m : String × Json} (h : m ∈ (cons f fs).write x) :
    (f.written x.1 = true ∧ m = (f.name, f.codec.write x.1)) ∨ m ∈ fs.write x.2 := by
  simp only [cons] at h
  split_ifs at h with hwritten
  · exact (List.mem_cons.mp h).imp (fun h => ⟨hwritten, h⟩) id
  · exact .inr h

lemma keys_cons (h : ∀ x, ((fs.write x).map Prod.fst).Sublist names) (x : β × α) :
    (((cons f fs).write x).map Prod.fst).Sublist (f.name :: names) := by
  simp only [cons]
  split_ifs
  · exact (h x.2).cons_cons _
  · exact (h x.2).cons _

lemma ReadsBack.cons (hf : f.ReadsBack R u) (h : fs.ReadsBack names P g slots) :
    (Fields.cons f fs).ReadsBack (f.name :: names) (fun x => R x.1 ∧ P x.2)
      (fun x => (u x.1, g x.2)) (metSlots f u slots) where
  blank x := by
    simp [metSlots, Fields.cons, h.blank]
  unknown x met k hk := by
    rw [List.mem_cons, not_or] at hk
    simp [metSlots, h.unknown _ _ _ hk.2, Ne.symm hk.1]
  offer hnames x hx m hm met hmet source := by
    obtain ⟨hfirst, hrest⟩ := List.nodup_cons.mp hnames
    rcases mem_write_cons hm with ⟨hwritten, rfl⟩ | hm
    · have hslots : metSlots f u slots met x = (none, slots met x.2) := by
        simp [metSlots, hmet]
      have hslots' : metSlots f u slots (f.name :: met) x = (some (u x.1), slots met x.2) := by
        simp [metSlots, hwritten, h.unknown _ _ _ hfirst]
      rw [hslots, offer_cons_self, hf.read_write _ hx.1 hwritten, hslots', Source.map_within]
    · have hne : m.1 ≠ f.name := by
        rintro heq
        exact hfirst ((h.keys x.2).subset (heq ▸ List.mem_map_of_mem hm))
      have hslots : metSlots f u slots (m.1 :: met) x =
          ((metSlots f u slots met x).1, slots (m.1 :: met) x.2) := by
        simp [metSlots, Ne.symm hne]
      rw [offer_cons_of_ne hne, hslots, metSlots, h.offer hrest _ hx.2 m hm met hmet,
        Option.map_some, Source.map_within]
  finish x hx met hmet := by
    have hrest : fs.finish (slots met x.2) = .ok (g x.2) := by
      refine h.finish _ hx.2 met fun m hm => hmet m ?_
      simp only [Fields.cons]
      split_ifs
      · exact List.mem_cons_of_mem _ hm
      · exact hm
    have hvalue : (metSlots f u slots met x).1.or f.ifAbsent = some (u x.1) := by
      by_cases hwritten : f.written x.1 = true
      · have hmem : f.name ∈ met :=
          hmet (f.name, f.codec.write x.1) (by simp [Fields.cons, hwritten])
        simp [metSlots, hwritten, hmem]
      · simp [metSlots, hwritten, hf.absent _ hx.1 (by simpa using hwritten)]
    have hrest' : fs.finish (metSlots f u slots met x).2 = .ok (g x.2) := hrest
    simp [Fields.cons, hvalue, hrest', Except.map]
  keys := keys_cons h.keys
  canonical x hx m hm := by
    rcases mem_write_cons hm with ⟨hwritten, rfl⟩ | hm
    · exact hf.canonical _ hx.1 hwritten
    · exact h.canonical _ hx.2 m hm

lemma collect_cons (source : Source) (s : σ) (k : String) (d : Draft)
    (ms : List (Draft.Key × Draft)) {r : Except Fault σ} (h : fs.offer source k d s = some r) :
    fs.collect source s ((.text k, d) :: ms) = r.bind fun s => fs.collect source s ms := by
  rw [collect, h]
  cases r <;> rfl

/-- The written members, offered in any order. -/
lemma ReadsBack.collect (h : fs.ReadsBack names P g slots) (hnames : names.Nodup) {x : α} (hx : P x)
    (source : Source) {ms : List (String × Json)} (met : List String)
    (hms : ∀ m ∈ ms, m ∈ fs.write x) (hkeys : (ms.map Prod.fst).Nodup)
    (hmet : ∀ m ∈ ms, m.1 ∉ met) :
    fs.collect source (slots met x) (Draft.ofMembers ms) =
      source.within (depthMembers ms) (slots ((ms.map Prod.fst).reverse ++ met) x) := by
  induction ms generalizing met with
  | nil => simp [Draft.ofMembers, Fields.collect, depthMembers]
  | cons m ms ih =>
      obtain ⟨k, v⟩ := m
      rw [List.forall_mem_cons] at hms hmet
      rw [List.map_cons, List.nodup_cons] at hkeys
      have hrest := ih (k :: met) hms.2 hkeys.2 fun m hm => by
        rw [List.mem_cons, not_or]
        exact ⟨fun heq => hkeys.1 (List.mem_map.mpr ⟨m, hm, heq⟩), hmet.2 m hm⟩
      rw [Draft.ofMembers,
        collect_cons source (slots met x) k _ _ (h.offer hnames x hx _ hms.1 met hmet.1 source),
        depthMembers]
      refine Source.within_bind ?_
      rw [hrest]
      simp

end Fields

namespace Codec

variable {fs : Fields σ α} {names : List String} {P : α → Prop} {g : α → α} {u : β → β}
  {slots : List String → α → σ}

lemma record_read_object (expecting : String) (make : α → β) (split : β → α) (source : Source)
    (members : List (Draft.Key × Draft)) :
    (record expecting fs make split).read source (.object members) =
      (source.enter.bind fun inner =>
        (fs.collect inner fs.blank members).bind fs.finish).map make := rfl

/-- **A record is read back when its fields are.** -/
theorem ReadsBack.record {expecting : String} {make : α → β} {split : β → α} {Q : β → Prop}
    (h : fs.ReadsBack names P g slots) (hnames : names.Nodup)
    (hmake : ∀ x, Q x → P (split x) ∧ make (g (split x)) = u x) :
    (record expecting fs make split).ReadsBack Q u where
  read_write x hx source := by
    obtain ⟨hsplit, hself⟩ := hmake x hx
    have hkeys : ((fs.write (split x)).map Prod.fst).Nodup := hnames.sublist (h.keys _)
    have hperm := Table.ofList_perm hkeys
    have hwrite : (Codec.record expecting fs make split).write x =
        .object (Table.ofList (fs.write (split x))) := rfl
    rw [hwrite, Draft.ofJson, record_read_object, depth, ← h.blank (split x)]
    refine (congrArg (Except.map make) (?_ : _ =
      source.within (depthMembers (Table.ofList (fs.write (split x))) + 1) (g (split x)))).trans
      (by rw [Source.map_within, hself])
    refine Source.enter_bind fun inner => ?_
    rw [h.collect hnames hsplit inner [] (fun m hm => hperm.mem_iff.mp hm)
      ((hperm.map Prod.fst).nodup_iff.mpr hkeys) (by simp)]
    rw [Source.within_bind (b := 0), Nat.max_zero]
    rw [Source.within_zero]
    refine h.finish _ hsplit _ fun m hm => ?_
    simp only [List.append_nil, List.mem_reverse]
    exact List.mem_map_of_mem (hperm.mem_iff.mpr hm)
  canonical x hx := by
    obtain ⟨hsplit, -⟩ := hmake x hx
    have hkeys : ((fs.write (split x)).map Prod.fst).Nodup := hnames.sublist (h.keys _)
    exact ⟨Table.sorted_ofList _, canonicalMembers_iff.mpr fun m hm =>
      h.canonical _ hsplit m ((Table.ofList_perm hkeys).mem_iff.mp hm)⟩

/-- A checked type is read back when what it is read as passes the check. -/
lemma ReadsBack.refine {c : Codec α} {check : α → Except String β} {forget : β → α} {Q : β → Prop}
    (h : c.ReadsBack P g) (hcheck : ∀ x, Q x → P (forget x) ∧ check (g (forget x)) = .ok (u x)) :
    (c.refine check forget).ReadsBack Q u where
  read_write x hx source := by
    obtain ⟨hforget, hok⟩ := hcheck x hx
    unfold Codec.refine
    simp only [h.read_write _ hforget]
    refine (Source.within_bind (b := 0) (y := u x) ?_).trans (by rw [Nat.max_zero])
    rw [hok, Source.within_zero]
  canonical x hx := h.canonical _ (hcheck x hx).1

/-! ## Whole texts -/

/-- **What is written is read back from its text**, unless it nests too deeply for a text. -/
theorem ReadsBack.decode {c : Codec α} (h : c.ReadsBack P g) {x : α} (hx : P x)
    (hfloats : (c.write x).FloatsLegible) :
    c.decode (c.write x).compact =
      if (c.write x).depth ≤ 127 then .ok (g x) else .error .tooDeep := by
  rw [decode_compact c ((h.canonical x hx).legible hfloats), h.read_write x hx]
  rfl

/-- **What is written is read back from its value.** -/
theorem ReadsBack.ofJson {c : Codec α} (h : c.ReadsBack P g) {x : α} (hx : P x) :
    c.ofJson (c.write x) = .ok (g x) := by
  have hread : c.read .value (Draft.ofJson (c.write x)) = .ok (g x) := h.read_write x hx .value
  rw [Codec.ofJson, hread]

end Codec

end Blockflow.Json
