import Blockflow.Proofs.Json.Codec

/-!
# Sums told apart by a member are read back

The member that tells the cases apart is written among the others, wherever its key stands in the
order of keys.  A reader passes over the members once and sets the telling one apart; what is left
are the members of the case, which it reads in memory, however deeply they nest.

* `Codec.splitTag_none` — members one of which tells the case.
* `Codec.Case.Reads` — a case reads its members, in any order; `Codec.Case.reads_ofFields`,
  `Codec.Case.reads_bare` — the two kinds of case.
* **`Codec.Case.Reads.tagged`** — the case is found, and its members are read back.
* `Codec.RestoresAt`, **`Codec.restoresAt_ofFields`** — the law of a sum, one value at a time.
-/

namespace Blockflow.Json.Codec

variable {α β σ : Type} {tag word : String} {cases : List (Case β)} {c : Case β} {source : Source}

/-! ## The telling member -/

/-- A member that tells nothing is looked through and kept. -/
lemma splitTag_cons_of_ne {k : String} (h : k ≠ tag) (found : Option (Case β))
    (others : List (Draft.Key × Draft)) (v : Json) (ms : List (Draft.Key × Draft)) :
    splitTag tag cases source found others ((.text k, Draft.ofJson v) :: ms) =
      (source.within v.depth ()).bind fun _ =>
        splitTag tag cases source found ((.text k, Draft.ofJson v) :: others) ms := by
  rw [splitTag, if_neg h, Draft.fault?_ofJson]
  unfold Source.fault Source.within
  split_ifs <;> rfl

/-- Behind the telling member. -/
lemma splitTag_some {ms : List (String × Json)} (h : tag ∉ ms.map Prod.fst)
    (others : List (Draft.Key × Draft)) :
    splitTag tag cases source (some c) others (Draft.ofMembers ms) =
      source.within (depthMembers ms) (c, others.reverse ++ Draft.ofMembers ms) := by
  induction ms generalizing others with
  | nil => simp [Draft.ofMembers, splitTag, depthMembers]
  | cons m ms ih =>
      obtain ⟨k, v⟩ := m
      rw [List.map_cons, List.mem_cons, not_or] at h
      rw [Draft.ofMembers, splitTag_cons_of_ne (Ne.symm h.1), depthMembers]
      refine Source.within_bind ?_
      rw [ih h.2]
      simp

/-- **The telling member is set apart**, and the others stay in their order. -/
lemma splitTag_none {front back : List (String × Json)}
    (hcase : ofWord (cases.map fun c => (c.word, c)) word = .ok c)
    (hfront : tag ∉ front.map Prod.fst) (hback : tag ∉ back.map Prod.fst)
    (others : List (Draft.Key × Draft)) :
    splitTag tag cases source none others (Draft.ofMembers (front ++ (tag, .text word) :: back)) =
      source.within (depthMembers (front ++ (tag, .text word) :: back))
        (c, others.reverse ++ Draft.ofMembers (front ++ back)) := by
  induction front generalizing others with
  | nil =>
      have htold : readTag cases (Draft.ofJson (.text word)) = .ok c := hcase
      rw [List.nil_append, Draft.ofMembers, splitTag, if_pos rfl, htold, depthMembers]
      simp only [Option.isSome_none, Bool.false_eq_true, if_false, List.nil_append]
      rw [splitTag_some hback]
      simp [depth]
  | cons m front ih =>
      obtain ⟨k, v⟩ := m
      rw [List.map_cons, List.mem_cons, not_or] at hfront
      rw [List.cons_append, Draft.ofMembers, splitTag_cons_of_ne (Ne.symm hfront.1), depthMembers]
      refine Source.within_bind ?_
      rw [ih hfront.2]
      simp [Draft.ofMembers]

/-! ## Cases -/

/-- A case reads its members as a value, in any order. -/
def Case.Reads (c : Case β) (members : List (String × Json)) (x : β) : Prop :=
  ∀ ms : List (String × Json), ms.Perm members → c.read (.object (Draft.ofMembers ms)) = .ok x

/-- A case without members of its own. -/
lemma Case.reads_bare (word : String) (members : List (String × Json)) (x : β) :
    (Case.bare word x).Reads members x :=
  fun _ _ => rfl

/-- A case with fields that are read back. -/
lemma Case.reads_ofFields {fs : Fields σ α} {names : List String} {P : α → Prop} {g : α → α}
    {slots : List String → α → σ} (h : fs.ReadsBack names P g slots) (hnames : names.Nodup)
    (word expecting : String) (make : α → β) {x : α} (hx : P x) :
    (Case.ofFields word expecting fs make).Reads (fs.write x) (make (g x)) := by
  intro ms hperm
  have hkeys : ((fs.write x).map Prod.fst).Nodup := hnames.sublist (h.keys _)
  have hadmits : Source.buffered.Admits (depthMembers ms) := trivial
  have hcollect := h.collect hnames hx .buffered [] (fun m hm => hperm.mem_iff.mp hm)
    ((hperm.map Prod.fst).nodup_iff.mpr hkeys) (by simp)
  have hfinish : fs.finish (slots ((ms.map Prod.fst).reverse ++ []) x) = .ok (g x) := by
    refine h.finish _ hx _ fun m hm => ?_
    rw [List.append_nil, List.mem_reverse]
    exact List.mem_map_of_mem (hperm.mem_iff.mpr hm)
  rw [h.blank, Source.within_of_admits hadmits] at hcollect
  have hread : fs.read expecting .buffered (.object (Draft.ofMembers ms)) = .ok (g x) := by
    change (fs.collect .buffered fs.blank (Draft.ofMembers ms)).bind fs.finish = _
    rw [hcollect]
    exact hfinish
  exact congrArg (Except.map make) hread

/-- **The members of a case are read back from the sum**, wherever they may nest so deeply. -/
theorem Case.Reads.tagged {members : List (String × Json)} {x : β} (h : c.Reads members x)
    (hcase : ofWord (cases.map fun c => (c.word, c)) word = .ok c)
    (hkeys : (tag :: members.map Prod.fst).Nodup) (expecting : String) (write : β → Json)
    (source : Source) :
    let written := Json.object (Table.ofList ((tag, .text word) :: members))
    (tagged tag expecting cases write).read source (Draft.ofJson written) =
      source.within written.depth x := by
  intro written
  have hperm : (Table.ofList ((tag, .text word) :: members)).Perm ((tag, .text word) :: members) :=
    Table.ofList_perm hkeys
  obtain ⟨front, back, hsplit⟩ := List.append_of_mem (hperm.symm.subset List.mem_cons_self)
  have hothers : (front ++ back).Perm members := by
    rw [hsplit] at hperm
    exact (List.perm_middle.symm.trans hperm).cons_inv
  have hno : tag ∉ (front ++ back).map Prod.fst := by
    rw [(hothers.map Prod.fst).mem_iff]
    exact (List.nodup_cons.mp hkeys).1
  rw [List.map_append, List.mem_append, not_or] at hno
  have hread : (Codec.tagged tag expecting cases write).read source (Draft.ofJson written) =
      source.enter.bind fun inner =>
        (splitTag tag cases inner none []
          (Draft.ofMembers (front ++ (tag, .text word) :: back))).bind fun r =>
            r.1.read (.object r.2) := by
    rw [← hsplit]
    rfl
  have hdepth : written.depth = depthMembers (front ++ (tag, .text word) :: back) + 1 := by
    rw [← hsplit]
    rfl
  rw [hread, hdepth]
  refine Source.enter_bind fun inner => ?_
  rw [splitTag_none hcase hno.1 hno.2, Source.within_bind (b := 0), Nat.max_zero]
  rw [Source.within_zero, List.reverse_nil, List.nil_append]
  exact h _ hothers

/-- What is written of a case is canonical. -/
lemma canonical_taggedJson {fs : Fields σ α} {names : List String} {P : α → Prop} {g : α → α}
    {slots : List String → α → σ} (h : fs.ReadsBack names P g slots)
    (hnames : (tag :: names).Nodup) {x : α} (hx : P x) :
    (taggedJson tag word fs x).Canonical := by
  have hkeys : (tag :: (fs.write x).map Prod.fst).Nodup :=
    hnames.sublist ((h.keys x).cons_cons tag)
  refine ⟨Table.sorted_ofList _, canonicalMembers_iff.mpr fun m hm => ?_⟩
  have hperm : (Table.ofList ((tag, .text word) :: fs.write x)).Perm
    ((tag, .text word) :: fs.write x) := Table.ofList_perm hkeys
  rcases List.mem_cons.mp (hperm.subset hm) with rfl | hm
  · trivial
  · exact h.canonical x hx m hm

/-! ## Sums -/

/-- A value of a sum is written as canonical, and read back wherever it may nest so deeply. -/
def RestoresAt (c : Codec β) (x : β) : Prop :=
  (∀ source : Source,
    c.read source (Draft.ofJson (c.write x)) = source.within (c.write x).depth x) ∧
    (c.write x).Canonical

lemma restores_of_forall {c : Codec β} {Q : β → Prop} (h : ∀ x, Q x → c.RestoresAt x) :
    c.Restores Q where
  read_write x hx := (h x hx).1
  canonical x hx := (h x hx).2

variable {expecting : String} {write : β → Json} {y : β}

/-- **A value of a case with fields is read back when they are.** -/
theorem restoresAt_ofFields {fs : Fields σ α} {names : List String} {P : α → Prop} {g : α → α}
    {slots : List String → α → σ} (h : fs.ReadsBack names P g slots)
    (hnames : (tag :: names).Nodup) {what : String} {make : α → β}
    (hcase : ofWord (cases.map fun c => (c.word, c)) word = .ok (.ofFields word what fs make))
    {x : α} (hx : P x) (hwrite : write y = taggedJson tag word fs x) (hmake : make (g x) = y) :
    (tagged tag expecting cases write).RestoresAt y := by
  have hkeys : (tag :: (fs.write x).map Prod.fst).Nodup :=
    hnames.sublist ((h.keys x).cons_cons tag)
  have hreads := Case.reads_ofFields h (List.nodup_cons.mp hnames).2 word what make hx
  rw [hmake] at hreads
  have hwritten : (tagged tag expecting cases write).write y = taggedJson tag word fs x := hwrite
  rw [RestoresAt, hwritten]
  exact ⟨hreads.tagged hcase hkeys expecting write, canonical_taggedJson h hnames hx⟩

/-- A value of a case without members is read back. -/
lemma restoresAt_bare (hcase : ofWord (cases.map fun c => (c.word, c)) word = .ok (.bare word y))
    (hwrite : write y = taggedJson tag word .done ()) :
    (tagged tag expecting cases write).RestoresAt y := by
  have hreads := Case.reads_bare word [] y
  have hwritten : (tagged tag expecting cases write).write y = taggedJson tag word .done () :=
    hwrite
  rw [RestoresAt, hwritten]
  exact ⟨hreads.tagged hcase (List.nodup_singleton tag) expecting write,
    canonical_taggedJson Fields.readsBack_done (List.nodup_singleton tag) trivial⟩

end Blockflow.Json.Codec
