import Blockflow.Proofs.Json.Reading
import Blockflow.Proofs.Json.Codec

/-!
# What codecs accept

Whatever a codec reads from a proper draft satisfies the conditions under which it is read back,
and is written no deeper than the source of the draft lets a value nest.  As with the way back, the
law goes from the codecs of parts to the codec of the whole, over both forms of a record.

* `Draft.Fits` — proper drafts from which nothing deeper than `n` can be read.
* `Codec.Accepts` — the law; `Codec.accepts_json`, `Codec.accepts_text`, …, `Codec.Accepts.list`,
  `Codec.Accepts.table` — plain types.
* `Field.Accepts`, `Fields.Accepts` — the law for the fields of a record.
* **`Codec.Accepts.record`** — records.
* **`Codec.Accepts.decode`**, **`Codec.Accepts.ofJson`** — whole texts and values.
-/

namespace Blockflow.Json

variable {α β σ : Type}

/-! ## Drafts of limited depth -/

/-- A proper draft from which nothing that nests deeper than `n` can be read. -/
structure Draft.Fits (source : Source) (n : Nat) (d : Draft) : Prop where
  proper : d.Proper
  limit : source.limit d.depth ≤ n

/-- Items of drafts that fit. -/
structure Draft.ItemsFit (source : Source) (n : Nat) (ds : List Draft) : Prop where
  proper : Draft.ProperItems ds
  limit : source.limit (Draft.depthItems ds) ≤ n

/-- Members whose drafts fit. -/
structure Draft.MembersFit (source : Source) (n : Nat) (ms : List (Draft.Key × Draft)) : Prop where
  proper : Draft.ProperMembers ms
  limit : source.limit (Draft.depthMembers ms) ≤ n

namespace Draft

variable {source : Source} {n : Nat} {d : Draft} {ds : List Draft} {key : Key}
  {ms : List (Key × Draft)}

lemma ItemsFit.head (h : ItemsFit source n (d :: ds)) : d.Fits source n :=
  ⟨h.proper.1, Source.limit_max_left h.limit⟩

lemma ItemsFit.tail (h : ItemsFit source n (d :: ds)) : ItemsFit source n ds :=
  ⟨h.proper.2, Source.limit_max_right h.limit⟩

lemma MembersFit.head (h : MembersFit source n ((key, d) :: ms)) : d.Fits source n :=
  ⟨h.proper.1, Source.limit_max_left h.limit⟩

lemma MembersFit.tail (h : MembersFit source n ((key, d) :: ms)) : MembersFit source n ms :=
  ⟨h.proper.2, Source.limit_max_right h.limit⟩

/-- An array that is entered has items that nest one level less. -/
lemma Fits.items {inner : Source} (h : (Draft.array ds).Fits source n)
    (henter : source.enter = .ok inner) : ∃ m, n = m + 1 ∧ ItemsFit inner m ds := by
  obtain ⟨hadmits, rfl⟩ := Source.admits_of_enter henter
  have hle := (Source.limit_inside hadmits).trans h.limit
  exact ⟨n - 1, by omega, h.proper, by omega⟩

/-- An object that is entered has members that nest one level less. -/
lemma Fits.members {inner : Source} (h : (Draft.object ms).Fits source n)
    (henter : source.enter = .ok inner) : ∃ m, n = m + 1 ∧ MembersFit inner m ms := by
  obtain ⟨hadmits, rfl⟩ := Source.admits_of_enter henter
  have hle := (Source.limit_inside hadmits).trans h.limit
  exact ⟨n - 1, by omega, h.proper, by omega⟩

end Draft

/-! ## Results of readers -/

lemma bind_eq_ok {ε : Type} {r : Except ε α} {k : α → Except ε β} {y : β} (h : r.bind k = .ok y) :
    ∃ x, r = .ok x ∧ k x = .ok y := by
  cases r with
  | error e => cases h
  | ok x => exact ⟨x, rfl, h⟩

lemma map_eq_ok {ε : Type} {r : Except ε α} {f : α → β} {y : β} (h : r.map f = .ok y) :
    ∃ x, r = .ok x ∧ f x = y := by
  cases r with
  | error e => cases h
  | ok x => exact ⟨x, rfl, Except.ok.inj h⟩

/-- What a codec reads satisfies `P`, and is written no deeper than the draft lets it, or than
`k`. -/
def Codec.Accepts (c : Codec α) (k : Nat) (P : α → Prop) : Prop :=
  ∀ n source d x, k ≤ n → Draft.Fits source n d → c.read source d = .ok x →
    P x ∧ (c.write x).depth ≤ n

namespace Codec

variable {c : Codec α} {k : Nat} {P Q : α → Prop}

lemma Accepts.mono (h : c.Accepts k P) (himp : ∀ x, P x → Q x) : c.Accepts k Q :=
  fun n source d x hn hd hread => (h n source d x hn hd hread).imp_left (himp x)

lemma Accepts.deeper {k' : Nat} (h : c.Accepts k P) (hk : k ≤ k') : c.Accepts k' P :=
  fun n source d x hn hd hread => h n source d x (hk.trans hn) hd hread

/-! ## Plain types -/

lemma accepts_json : json.Accepts k Canonical := by
  intro n source d v _ hd hread
  unfold json at hread
  dsimp only at hread
  split at hread
  · cases hread
  · rename_i hfault
    cases hread
    exact ⟨Draft.canonical_value d hd.proper, (Draft.depth_value source d hfault).trans hd.limit⟩

lemma accepts_text : text.Accepts k fun _ => True :=
  fun _ _ _ _ _ _ _ => ⟨trivial, Nat.zero_le _⟩

lemma accepts_bool : bool.Accepts k fun _ => True :=
  fun _ _ _ _ _ _ _ => ⟨trivial, Nat.zero_le _⟩

lemma accepts_words (entries : List (String × α)) (word : α → String) :
    (words entries word).Accepts k fun _ => True :=
  fun _ _ _ _ _ _ _ => ⟨trivial, Nat.zero_le _⟩

lemma accepts_natural (limit : Nat) (wanted : String) :
    (natural limit wanted).Accepts k (· ≤ limit) := by
  intro n source d x _ _ hread
  refine ⟨?_, Nat.zero_le _⟩
  unfold natural at hread
  dsimp only at hread
  split at hread
  · split_ifs at hread with hle
    cases hread
    exact hle
  · cases hread
  · cases hread

lemma depth_float (x : Double) : (Json.float x).depth = 0 := by
  unfold Json.float
  split_ifs <;> rfl

lemma accepts_float (F : FloatFormat) (wanted : String) :
    (Codec.float F wanted).Accepts k fun _ => True :=
  fun n _ _ x _ _ _ => ⟨trivial, (depth_float (x.convert .double)).trans_le (Nat.zero_le n)⟩

lemma isFinite_ofInt {n : Int} (h : (Number.int n).Proper) :
    (Binary.ofInt n : Double).isFinite = true := by
  refine Binary.isFinite_ofRatio_one ?_
  have hmax : (maxInteger : ℤ) = 18446744073709551615 := rfl
  obtain ⟨hlow, hhigh⟩ := h
  omega

lemma accepts_double : double.Accepts k fun x => x.isFinite = true := by
  intro n source d x hn hd hread
  refine ⟨?_, (accepts_float .double "f64" n source d x hn hd hread).2⟩
  unfold double Codec.float at hread
  dsimp only at hread
  split at hread
  · cases hread
    exact isFinite_ofInt hd.proper
  · cases hread
    rename_i y
    have hfinite : y.isFinite = true := hd.proper
    rwa [Binary.convert_self hfinite]
  · cases hread

lemma Accepts.option (h : c.Accepts k P) : c.option.Accepts k fun o => ∀ x ∈ o, P x := by
  intro n source d o hn hd hread
  by_cases hd' : d = .null
  · subst hd'
    cases hread
    exact ⟨by simp, Nat.zero_le _⟩
  · rw [option_read_of_ne_null c hd'] at hread
    obtain ⟨x, hx, rfl⟩ := map_eq_ok hread
    obtain ⟨hP, hdepth⟩ := h n source d x hn hd hx
    refine ⟨?_, hdepth⟩
    rintro y ⟨⟩
    exact hP

/-- Only null is read as the value null. -/
lemma json_read_ne_null {source : Source} {n : Nat} {d : Draft} {v : Json}
    (hd : Draft.Fits source n d) (hnull : d ≠ .null) (hread : json.read source d = .ok v) :
    v ≠ .null := by
  unfold json at hread
  dsimp only at hread
  split at hread
  · cases hread
  · rename_i hfault
    cases hread
    cases d with
    | null => exact absurd rfl hnull
    | number m =>
        cases m with
        | int n => exact Json.noConfusion
        | float x =>
            have hfinite : x.isFinite = true := hd.proper
            simp [Draft.value, Json.float, hfinite]
    | unreadable f => cases hfault
    | broken halt => cases hfault
    | bool | text | array | object => exact Json.noConfusion

lemma accepts_option_json :
    json.option.Accepts k fun o => ∀ v ∈ o, v.Canonical ∧ v ≠ .null := by
  intro n source d o hn hd hread
  obtain ⟨hcanonical, hdepth⟩ := accepts_json.option n source d o hn hd hread
  refine ⟨fun v hv => ⟨hcanonical v hv, ?_⟩, hdepth⟩
  by_cases hd' : d = .null
  · subst hd'
    cases hread
    cases hv
  · rw [option_read_of_ne_null json hd'] at hread
    obtain ⟨x, hx, rfl⟩ := map_eq_ok hread
    obtain rfl : x = v := Option.mem_some_iff.mp hv
    exact json_read_ne_null hd hd' hx

lemma Accepts.readItems {source : Source} {n : Nat} (h : c.Accepts k P) (hn : k ≤ n)
    {ds : List Draft} {xs : List α} (hds : Draft.ItemsFit source n ds)
    (hread : c.readItems source ds = .ok xs) :
    (∀ x ∈ xs, P x) ∧ depthItems (xs.map c.write) ≤ n := by
  induction ds generalizing xs with
  | nil =>
      cases hread
      exact ⟨by simp, Nat.zero_le _⟩
  | cons d ds ih =>
      rw [readItems_cons] at hread
      obtain ⟨x, hx, hrest⟩ := bind_eq_ok hread
      obtain ⟨xs, hxs, rfl⟩ := map_eq_ok hrest
      obtain ⟨hP, hdepth⟩ := h n source d x hn hds.head hx
      obtain ⟨hPs, hdepths⟩ := ih hds.tail hxs
      exact ⟨List.forall_mem_cons.mpr ⟨hP, hPs⟩, max_le hdepth hdepths⟩

lemma Accepts.list (h : c.Accepts k P) : c.list.Accepts (k + 1) fun xs => ∀ x ∈ xs, P x := by
  intro n source d xs hn hd hread
  cases d with
  | array items =>
      rw [list_read_array] at hread
      obtain ⟨inner, henter, hitems⟩ := bind_eq_ok hread
      obtain ⟨m, rfl, hfits⟩ := hd.items henter
      obtain ⟨hP, hdepth⟩ := h.readItems (by omega) hfits hitems
      exact ⟨hP, Nat.succ_le_succ hdepth⟩
  | null | bool | number | text | object | unreadable | broken => cases hread

lemma Accepts.readMembers {source : Source} {n : Nat} (h : c.Accepts k P) (hn : k ≤ n)
    {ms : List (Draft.Key × Draft)} (acc : Table α) {t : Table α}
    (hms : Draft.MembersFit source n ms) (hread : c.readMembers source acc ms = .ok t)
    (hsorted : Table.Sorted acc) (hacc : ∀ e ∈ acc, P e.2 ∧ (c.write e.2).depth ≤ n) :
    Table.Sorted t ∧ ∀ e ∈ t, P e.2 ∧ (c.write e.2).depth ≤ n := by
  induction ms generalizing acc with
  | nil =>
      cases hread
      exact ⟨hsorted, hacc⟩
  | cons m ms ih =>
      obtain ⟨key, d⟩ := m
      cases key with
      | unreadable f => cases hread
      | text key =>
          rw [readMembers_cons] at hread
          obtain ⟨x, hx, hrest⟩ := bind_eq_ok hread
          refine ih _ hms.tail hrest (Table.sorted_insert hsorted key x) fun e he => ?_
          rcases Table.mem_insert he with rfl | he
          · exact h n source d x hn hms.head hx
          · exact hacc e he

lemma Accepts.table (h : c.Accepts k P) :
    c.table.Accepts (k + 1) fun t => Table.Sorted t ∧ ∀ e ∈ t, P e.2 := by
  intro n source d t hn hd hread
  cases d with
  | object members =>
      rw [table_read_object] at hread
      obtain ⟨inner, henter, hmembers⟩ := bind_eq_ok hread
      obtain ⟨m, rfl, hfits⟩ := hd.members henter
      obtain ⟨hsorted, ht⟩ :=
        h.readMembers (by omega) [] hfits hmembers List.Pairwise.nil (by simp)
      refine ⟨⟨hsorted, fun e he => (ht e he).1⟩, Nat.succ_le_succ ?_⟩
      refine depthMembers_le_iff.mpr fun m hm => ?_
      obtain ⟨e, he, rfl⟩ := List.mem_map.mp hm
      exact (ht e he).2
  | null | bool | number | text | array | unreadable | broken => cases hread

/-- Objects with any members. -/
lemma accepts_object : object.Accepts 1 fun ms => (Json.object ms).Canonical :=
  accepts_json.table.mono fun _ h => ⟨h.1, canonicalMembers_iff.mpr h.2⟩

end Codec

/-! ## Records -/

/-- A field's value that may be kept: it satisfies `R`, and nests no deeper than `n` if it is
written. -/
def Field.Kept (f : Field β) (R : β → Prop) (n : Nat) (x : β) : Prop :=
  R x ∧ (f.written x = true → (f.codec.write x).depth ≤ n)

/-- What a field is read as, or falls back on, may be kept. -/
structure Field.Accepts (f : Field β) (k : Nat) (R : β → Prop) : Prop where
  codec : f.codec.Accepts k R
  absent : ∀ x ∈ f.ifAbsent, f.Kept R k x
  short : ∀ x ∈ f.ifShort, f.Kept R k x

namespace Field

variable {f : Field β} {c : Codec β} {k n : Nat} {R : β → Prop} {x : β}

lemma Kept.mono {m : Nat} (h : f.Kept R m x) (hm : m ≤ n) : f.Kept R n x :=
  ⟨h.1, fun hwritten => (h.2 hwritten).trans hm⟩

lemma Accepts.kept {source : Source} {d : Draft} (h : f.Accepts k R) (hn : k ≤ n)
    (hd : Draft.Fits source n d) (hread : f.codec.read source d = .ok x) : f.Kept R n x :=
  (h.codec n source d x hn hd hread).imp_right fun hdepth _ => hdepth

/-- A required field whose type has no value for an absent one. -/
lemma accepts_required (name : String) (h : c.Accepts k R) (habsent : c.absent = none) :
    (required name c).Accepts k R where
  codec := h
  absent x hx := by
    rw [required, habsent] at hx
    cases hx
  short x hx := by cases hx

lemma accepts_defaulted (name : String) {fallback : β} (h : c.Accepts k R)
    (hfallback : R fallback ∧ (c.write fallback).depth ≤ k) :
    (defaulted name c fallback).Accepts k R where
  codec := h
  absent := by
    rintro x ⟨⟩
    exact ⟨hfallback.1, fun _ => hfallback.2⟩
  short := by
    rintro x ⟨⟩
    exact ⟨hfallback.1, fun _ => hfallback.2⟩

lemma accepts_optional_of {R : Option β → Prop} (name : String) (h : c.option.Accepts k R)
    (hnone : R none) : (optional name c).Accepts k R where
  codec := h
  absent := by
    rintro o ⟨⟩
    exact ⟨hnone, fun hwritten => by cases hwritten⟩
  short := by
    rintro o ⟨⟩
    exact ⟨hnone, fun hwritten => by cases hwritten⟩

lemma accepts_optional (name : String) (h : c.Accepts k R) :
    (optional name c).Accepts k fun o => ∀ x ∈ o, R x :=
  accepts_optional_of name h.option (by simp)

/-- An optional field of any value never holds null: null is read as none. -/
lemma accepts_optional_json (name : String) :
    (optional name Codec.json).Accepts k fun o => ∀ v ∈ o, v.Canonical ∧ v ≠ .null :=
  accepts_optional_of name Codec.accepts_option_json (by simp)

end Field

/-- What the fields of a record are read as satisfies `P` and is written no deeper than the drafts
let it.  `Met n s` says the same of what was met so far. -/
structure Fields.Accepts (fs : Fields σ α) (names : List String) (k : Nat) (P : α → Prop)
    (Met : Nat → σ → Prop) : Prop where
  blank : ∀ n, Met n fs.blank
  offer : ∀ {n source key d s s'}, k ≤ n → Draft.Fits source n d → Met n s →
    fs.offer source key d s = some (.ok s') → Met n s'
  finish : ∀ {n s x}, k ≤ n → Met n s → fs.finish s = .ok x →
    P x ∧ ∀ m ∈ fs.write x, m.2.depth ≤ n
  ordered : ∀ {n source tooShort position ds x rest}, k ≤ n → Draft.ItemsFit source n ds →
    fs.ordered source tooShort position ds = .ok (x, rest) →
      P x ∧ ∀ m ∈ fs.write x, m.2.depth ≤ n
  keys : ∀ x, ((fs.write x).map Prod.fst).Sublist names

namespace Fields

variable {fs : Fields σ α} {f : Field β} {names : List String} {k n : Nat} {P : α → Prop}
  {R : β → Prop} {Met : Nat → σ → Prop}

lemma accepts_done (k : Nat) : done.Accepts [] k (fun _ => True) fun _ _ => True where
  blank _ := trivial
  offer _ _ _ hoffer := by cases hoffer
  finish _ _ _ := ⟨trivial, by simp [done]⟩
  ordered _ _ _ := ⟨trivial, by simp [done]⟩
  keys _ := List.Sublist.refl _

/-- What was met of a field and of those behind it may be kept. -/
def MetCons (f : Field β) (R : β → Prop) (Met : Nat → σ → Prop) (n : Nat)
    (s : Option β × σ) : Prop :=
  (∀ x ∈ s.1, f.Kept R n x) ∧ Met n s.2

lemma depth_write_cons {x : β × α} (hx : f.Kept R n x.1)
    (hxs : ∀ m ∈ fs.write x.2, m.2.depth ≤ n) : ∀ m ∈ (cons f fs).write x, m.2.depth ≤ n := by
  intro m hm
  rcases mem_write_cons hm with ⟨hwritten, rfl⟩ | hm
  · exact hx.2 hwritten
  · exact hxs m hm

lemma Accepts.cons (hf : f.Accepts k R) (h : fs.Accepts names k P Met) :
    (Fields.cons f fs).Accepts (f.name :: names) k (fun x => R x.1 ∧ P x.2) (MetCons f R Met) where
  blank n := ⟨by simp [Fields.cons], h.blank n⟩
  offer {n source key d s s'} hn hd hs hoffer := by
    by_cases hkey : key = f.name
    · subst hkey
      simp only [Fields.cons, if_true, Option.some.injEq] at hoffer
      split at hoffer
      · cases hoffer
      · obtain ⟨x, hx, rfl⟩ := map_eq_ok hoffer
        refine ⟨?_, hs.2⟩
        rintro y ⟨⟩
        exact hf.kept hn hd hx
    · rw [offer_cons_of_ne hkey, Option.map_eq_some_iff] at hoffer
      obtain ⟨r, hr, hmap⟩ := hoffer
      obtain ⟨rest, rfl, rfl⟩ := map_eq_ok hmap
      exact ⟨hs.1, h.offer hn hd hs.2 hr⟩
  finish {n s x} hn hs hfinish := by
    simp only [Fields.cons] at hfinish
    split at hfinish
    · rename_i y hy
      obtain ⟨ys, hys, rfl⟩ := map_eq_ok hfinish
      obtain ⟨hP, hdepth⟩ := h.finish hn hs.2 hys
      have hkept : f.Kept R n y := by
        rcases Option.or_eq_some_iff.mp hy with hmet | ⟨-, habsent⟩
        · exact hs.1 y hmet
        · exact (hf.absent y habsent).mono hn
      exact ⟨⟨hkept.1, hP⟩, depth_write_cons hkept hdepth⟩
    · cases hfinish
  ordered {n source tooShort position ds x rest} hn hds hread := by
    simp only [Fields.cons] at hread
    cases ds with
    | nil =>
        dsimp only at hread
        split at hread
        · cases hread
        · rename_i y hy
          obtain ⟨r, hr, heq⟩ := map_eq_ok hread
          cases heq
          obtain ⟨hP, hdepth⟩ := h.ordered hn hds hr
          have hkept : f.Kept R n y := (hf.short y hy).mono hn
          exact ⟨⟨hkept.1, hP⟩, depth_write_cons hkept hdepth⟩
    | cons d ds =>
        dsimp only at hread
        split at hread
        · cases hread
        · rename_i y hy
          obtain ⟨r, hr, heq⟩ := map_eq_ok hread
          cases heq
          obtain ⟨hP, hdepth⟩ := h.ordered hn hds.tail hr
          have hkept : f.Kept R n y := hf.kept hn hds.head hy
          exact ⟨⟨hkept.1, hP⟩, depth_write_cons hkept hdepth⟩
  keys := keys_cons h.keys

/-- The members of an object, one after another. -/
lemma Accepts.collect {source : Source} (h : fs.Accepts names k P Met) (hn : k ≤ n)
    {ms : List (Draft.Key × Draft)} (hms : Draft.MembersFit source n ms) {s s' : σ} (hs : Met n s)
    (hcollect : fs.collect source s ms = .ok s') : Met n s' := by
  induction ms generalizing s with
  | nil =>
      cases hcollect
      exact hs
  | cons m ms ih =>
      obtain ⟨key, d⟩ := m
      cases key with
      | unreadable f => cases hcollect
      | text key =>
          rw [Fields.collect] at hcollect
          split at hcollect
          · rename_i s'' hoffer
            exact ih hms.tail (h.offer hn hms.head hs hoffer) hcollect
          · cases hcollect
          · split at hcollect
            · cases hcollect
            · exact ih hms.tail hs hcollect

end Fields

namespace Codec

variable {fs : Fields σ α} {names : List String} {k : Nat} {P : α → Prop} {Met : Nat → σ → Prop}

/-- An object of different keys nests one level deeper than its members. -/
lemma depth_ofList_le_iff (entries : List (String × Json)) {n : Nat}
    (h : (entries.map Prod.fst).Nodup) :
    (Json.object (Table.ofList entries)).depth ≤ n + 1 ↔ ∀ m ∈ entries, m.2.depth ≤ n := by
  rw [depth, Nat.succ_le_succ_iff, depthMembers_le_iff]
  simp only [(Table.ofList_perm h).mem_iff]

/-- **A record's fields satisfy what each of them is read with.** -/
theorem Accepts.record {expecting : String} {make : α → β} {split : β → α} {Q : β → Prop}
    (h : fs.Accepts names k P Met) (hnames : names.Nodup)
    (hmake : ∀ x, P x → Q (make x)) (hsplit : ∀ x, split (make x) = x) :
    (record expecting fs make split).Accepts (k + 1) Q := by
  have hwritten : ∀ {n x}, P x → (∀ m ∈ fs.write x, m.2.depth ≤ n) →
      Q (make x) ∧ ((Codec.record expecting fs make split).write (make x)).depth ≤ n + 1 := by
    intro n x hx hdepth
    refine ⟨hmake x hx, (depth_ofList_le_iff _ ?_).mpr ?_⟩
    · exact hnames.sublist (h.keys _)
    · rwa [hsplit]
  intro n source d y hn hd hread
  obtain ⟨x, hx, rfl⟩ := map_eq_ok (r := fs.read expecting source d) hread
  cases d with
  | object members =>
      obtain ⟨inner, henter, hinner⟩ := bind_eq_ok (r := source.enter) hx
      obtain ⟨s, hcollect, hfinish⟩ := bind_eq_ok (r := fs.collect inner fs.blank members) hinner
      obtain ⟨m, rfl, hfits⟩ := hd.members henter
      have hmet := h.collect (by omega) hfits (h.blank m) hcollect
      obtain ⟨hP, hdepth⟩ := h.finish (by omega) hmet hfinish
      exact hwritten hP hdepth
  | array items =>
      obtain ⟨inner, henter, hinner⟩ := bind_eq_ok (r := source.enter) hx
      obtain ⟨⟨xs, rest⟩, hordered, hleft⟩ := bind_eq_ok hinner
      obtain ⟨m, rfl, hfits⟩ := hd.items henter
      obtain ⟨hP, hdepth⟩ := h.ordered (by omega) hfits hordered
      dsimp only at hleft
      split at hleft
      · cases hleft
      · cases hleft
        exact hwritten hP hdepth
  | null | bool | number | text | unreadable | broken => cases hx

/-! ## Whole texts -/

/-- **What is accepted from a text** is written at most as deep as a text may nest. -/
theorem Accepts.decode {c : Codec α} (h : c.Accepts k P) (hk : k ≤ 127) {source : String} {x : α}
    (hread : c.decode source = .ok x) : P x ∧ (c.write x).depth ≤ 127 := by
  unfold Codec.decode at hread
  dsimp only at hread
  split at hread
  · cases hread
  · rename_i y hy
    split_ifs at hread
    cases hread
    exact h 127 .start _ x hk ⟨Document.proper_read source, le_rfl⟩ hy

/-- **What is accepted from a canonical value** is written no deeper than that value. -/
theorem Accepts.ofJson {c : Codec α} (h : c.Accepts k P) {v : Json} (hv : v.Canonical) {x : α}
    (hread : c.ofJson v = .ok x) : P x ∧ (c.write x).depth ≤ max k v.depth := by
  unfold Codec.ofJson at hread
  split at hread
  · cases hread
  · rename_i y hy
    cases hread
    have hlimit : Source.value.limit (Draft.ofJson v).depth ≤ max k v.depth := by
      rw [Draft.depth_ofJson]
      exact le_max_right _ _
    exact h _ .value _ x (le_max_left _ _) ⟨Draft.proper_ofJson v hv, hlimit⟩ hy

end Codec

end Blockflow.Json
