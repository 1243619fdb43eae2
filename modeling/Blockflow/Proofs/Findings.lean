import Blockflow.Proofs.Enumeration
import Blockflow.Proofs.Json.Canonical
import Blockflow.Proofs.Neighbours
import Blockflow.Response

/-!
# The findings of a response

A response shows the charts, images and files that the outputs of its blocks hold.  Where something
is in the outputs is told by a block and the steps that lead into its outputs.  The response lists
what is found in the order of these places: blocks as planned, and inside a block an object before
its parts, members by key and items by index.

* `Json.Step`, `Json.at?`, `Json.parts` — steps into a value, what they lead to, and the first ones.
* `Response.IsArtifact`, `Response.IsFile` — what an object is.
* `Site`, `Site.Before`, **`Site.Shows`** — places in the outputs, their order, and the objects that
  are looked at.
* **`enumerates_findings`** — the search of a value, by induction on the levels.
* `enumerates_distinctFiles` — the first file of each id.
* **`build_findings`** — the artifacts and the files of a response.
-/

namespace Blockflow

/-! ## Places in a value -/

namespace Json

/-- A step into a value: to a member of an object or to an item of an array. -/
inductive Step where
  | member (key : String)
  | item (index : Nat)
  deriving DecidableEq, Repr

/-- Members come in the order of their keys, and items in the order of their indices. -/
def Step.Before : Step → Step → Prop
  | .member k, .member l => k < l
  | .item i, .item j => i < j
  | _, _ => False

instance : Std.Asymm Step.Before where
  asymm
    | .member _, .member _, h => lt_asymm h
    | .item _, .item _, h => lt_asymm h

/-- What one step leads to. -/
def child? : Json → Step → Option Json
  | .object ms, .member key => Table.get? ms key
  | .array xs, .item index => xs[index]?
  | _, _ => none

/-- **What steps lead to.** -/
def at? (v : Json) : List Step → Option Json
  | [] => some v
  | s :: p => (v.child? s).bind fun x => x.at? p

/-- The parts of a value and the steps to them. -/
def parts : Json → List (Step × Json)
  | .object ms => ms.map fun e => (.member e.1, e.2)
  | .array xs => xs.zipIdx.map fun e => (.item e.2, e.1)
  | _ => []

variable {v x : Json} {s : Step}

lemma child?_eq_some_iff (h : v.Canonical) : v.child? s = some x ↔ (s, x) ∈ v.parts := by
  cases v with
  | object ms => cases s <;> simp [child?, parts, Table.Sorted.get?_eq_some_iff h.1]
  | array xs => cases s <;> simp [child?, parts, List.mem_zipIdx_iff_getElem?]
  | null | bool | number | text => simp [child?, parts]

lemma pairwise_parts (h : v.Canonical) : v.parts.Pairwise fun a b => a.1.Before b.1 := by
  cases v with
  | object ms => exact List.pairwise_map.mpr h.1
  | array xs =>
      refine List.pairwise_map.mpr (List.pairwise_iff_getElem.mpr fun i j _ _ hij => ?_)
      simpa [Step.Before] using hij
  | null | bool | number | text => exact .nil

lemma Canonical.part (h : v.Canonical) (hx : (s, x) ∈ v.parts) : x.Canonical := by
  cases v with
  | object ms =>
      obtain ⟨e, he, heq⟩ := List.mem_map.mp hx
      cases heq
      exact canonicalMembers_iff.mp h.2 e he
  | array xs =>
      obtain ⟨e, he, heq⟩ := List.mem_map.mp hx
      cases heq
      exact canonicalItems_iff.mp h _ (List.mem_of_getElem? (List.mem_zipIdx_iff_getElem?.mp he))
  | null | bool | number | text => cases hx

end Json

namespace Response

open Json (Step)

variable {source : String} {ms : Json.Object} {v : Json} {n : Nat} {p : List Step}

/-! ## What an object is -/

/-- **An object is an artifact**: a chart or an image with its data. -/
structure IsArtifact (source : String) (ms : Json.Object) (a : Artifact) : Prop where
  kind : Table.get? ms "type" = some (.text a.kind)
  known : a.kind = "chart" ∨ a.kind = "image"
  data : Table.get? ms "data" = some (.text a.data)
  format : a.format = textUnder? ms ["format"]
  title : a.title = textUnder? ms ["title"]
  sourceBlock : a.sourceBlock = source

/-- **An object is a file**: it is no artifact, and has an id and a name. -/
structure IsFile (source : String) (ms : Json.Object) (f : FileRef) : Prop where
  other : ∀ a, ¬ IsArtifact source ms a
  /-- Of two ids the one under the first key counts. -/
  fileId : Table.get? ms "file_id" = some (.text f.fileId) ∨
    (∀ s, Table.get? ms "file_id" ≠ some (.text s)) ∧
      Table.get? ms "fileId" = some (.text f.fileId)
  filename : Table.get? ms "filename" = some (.text f.filename)
  mimeType : f.mimeType = textUnder? ms ["mime_type", "mimeType"]
  size : f.size = (Table.get? ms "size").bind Json.asNat?
  downloadUrl : f.downloadUrl = textUnder? ms ["download_url", "downloadUrl", "url"]
  sourceBlock : f.sourceBlock = source

lemma bind_asText?_eq_some_iff {x : Option Json} {s : String} :
    x.bind Json.asText? = some s ↔ x = some (.text s) := by
  rcases x with _ | v
  · simp
  · cases v <;> simp [Json.asText?]

lemma textUnder?_singleton_eq_some_iff {key s : String} :
    textUnder? ms [key] = some s ↔ Table.get? ms key = some (.text s) := by
  rw [textUnder?, List.findSome?_cons, ← bind_asText?_eq_some_iff]
  cases (Table.get? ms key).bind Json.asText? <;> simp

lemma textUnder?_pair_eq_some_iff {key key' s : String} :
    textUnder? ms [key, key'] = some s ↔ Table.get? ms key = some (.text s) ∨
      (∀ t, Table.get? ms key ≠ some (.text t)) ∧ Table.get? ms key' = some (.text s) := by
  rw [textUnder?, List.findSome?_cons]
  simp only [← bind_asText?_eq_some_iff, ne_eq]
  cases hfirst : (Table.get? ms key).bind Json.asText? with
  | none => simp
  | some t => simp [eq_comm]

lemma artifact?_eq_some_iff {a : Artifact} :
    artifact? source ms = some a ↔ IsArtifact source ms a := by
  simp only [artifact?, Option.bind_eq_bind, Option.bind_eq_some_iff,
    textUnder?_singleton_eq_some_iff, Option.guard_eq_some', Bool.or_eq_true, decide_eq_true_eq]
  constructor
  · rintro ⟨kind, hkind, -, hknown, data, hdata, ha⟩
    cases ha
    exact ⟨hkind, hknown, hdata, rfl, rfl, rfl⟩
  · rintro ⟨hkind, hknown, hdata, hformat, htitle, hsource⟩
    refine ⟨a.kind, hkind, (), hknown, a.data, hdata, ?_⟩
    rw [← hformat, ← htitle, ← hsource]
    rfl

lemma file?_eq_some_iff {f : FileRef} (hother : ∀ a, ¬ IsArtifact source ms a) :
    file? source ms = some f ↔ IsFile source ms f := by
  simp only [file?, Option.bind_eq_bind, Option.bind_eq_some_iff, textUnder?_pair_eq_some_iff,
    textUnder?_singleton_eq_some_iff]
  constructor
  · rintro ⟨fileId, hid, filename, hname, hf⟩
    cases hf
    exact ⟨hother, hid, hname, rfl, rfl, rfl, rfl⟩
  · rintro ⟨-, hid, hname, hmime, hsize, hurl, hsource⟩
    refine ⟨f.fileId, hid, f.filename, hname, ?_⟩
    rw [← hmime, ← hsize, ← hurl, ← hsource]
    rfl

/-- An object that is an artifact. -/
lemma finding?_eq_artifact_iff {a : Artifact} :
    finding? source ms = some (.artifact a) ↔ IsArtifact source ms a := by
  rw [← artifact?_eq_some_iff, finding?]
  cases artifact? source ms <;> simp

/-- An object that is a file. -/
lemma finding?_eq_file_iff {f : FileRef} :
    finding? source ms = some (.file f) ↔ IsFile source ms f := by
  cases hartifact : artifact? source ms with
  | some a =>
      have ha := artifact?_eq_some_iff.mp hartifact
      simp only [finding?, hartifact, Option.map_some, Option.some_or, Option.some.injEq,
        reduceCtorEq, false_iff]
      exact fun hfile => hfile.other a ha
  | none =>
      have hother : ∀ a, ¬ IsArtifact source ms a := fun a ha => by
        rw [artifact?_eq_some_iff.mpr ha] at hartifact
        cases hartifact
      rw [← file?_eq_some_iff hother, finding?, hartifact]
      simp

lemma finding?_eq_none_iff :
    finding? source ms = none ↔
      (∀ a, ¬ IsArtifact source ms a) ∧ ∀ f, ¬ IsFile source ms f := by
  simp only [← finding?_eq_artifact_iff, ← finding?_eq_file_iff]
  constructor
  · exact fun h => ⟨fun a => by simp [h], fun f => by simp [h]⟩
  · rintro ⟨hartifact, hfile⟩
    cases hfinding : finding? source ms with
    | none => rfl
    | some finding =>
        cases finding with
        | artifact a => exact absurd hfinding (hartifact a)
        | file f => exact absurd hfinding (hfile f)

/-! ## The search of a value -/

/-- Something is found in a value, so many levels deep: there is an object that is something, and
no object around it is anything. -/
def Finds (source : String) (n : Nat) (v : Json) (p : List Step) (f : Finding) : Prop :=
  p.length ≤ n ∧ (∃ ms, v.at? p = some (.object ms) ∧ finding? source ms = some f) ∧
    ∀ above outer, above <+: p → above ≠ p → v.at? above = some (.object outer) →
      finding? source outer = none

lemma finds_nil_iff {f : Finding} :
    Finds source n v [] f ↔ ∃ ms, v = .object ms ∧ finding? source ms = some f := by
  simp only [Finds, List.length_nil, Nat.zero_le, true_and, Json.at?, Option.some.injEq,
    List.prefix_nil]
  exact and_iff_left fun above outer hnil hne => absurd hnil hne

/-- What is found further in is found in a part of a value that is nothing itself. -/
lemma finds_cons_iff {s : Step} {f : Finding} :
    Finds source n v (s :: p) f ↔ (∀ ms, v = .object ms → finding? source ms = none) ∧
      ∃ m x, n = m + 1 ∧ v.child? s = some x ∧ Finds source m x p f := by
  constructor
  · rintro ⟨hlevels, ⟨ms, hat, hfinding⟩, haround⟩
    obtain ⟨x, hchild, hat⟩ := Option.bind_eq_some_iff.mp hat
    obtain ⟨m, rfl⟩ : ∃ m, n = m + 1 := Nat.exists_eq_add_one.mpr (Nat.lt_of_lt_of_le
      (Nat.succ_pos _) hlevels)
    refine ⟨fun outer hv => ?_, m, x, rfl, hchild, Nat.le_of_succ_le_succ hlevels,
      ⟨ms, hat, hfinding⟩, fun above outer hprefix hne houter => ?_⟩
    · exact haround [] outer List.nil_prefix (List.cons_ne_nil s p).symm (congrArg some hv)
    · refine haround (s :: above) outer (List.prefix_cons_inj s |>.mpr hprefix) (by simpa) ?_
      rw [Json.at?, hchild]
      exact houter
  · rintro ⟨hnone, m, x, rfl, hchild, hlevels, ⟨ms, hat, hfinding⟩, haround⟩
    have hstep : ∀ q, v.at? (s :: q) = x.at? q := fun q => by
      rw [Json.at?, hchild, Option.bind_some]
    refine ⟨Nat.succ_le_succ hlevels, ⟨ms, (hstep p).trans hat, hfinding⟩,
      fun above outer hprefix hne houter => ?_⟩
    rcases List.prefix_cons_iff.mp hprefix with rfl | ⟨q, rfl, hinner⟩
    · exact hnone outer (Option.some.inj houter)
    · exact haround q outer hinner (by simpa using hne) ((hstep q).symm.trans houter)

lemma memberFindings_eq (ms : List (String × Json)) :
    memberFindings source n ms =
      (Json.object ms).parts.flatMap fun e => findings source n e.2 := by
  rw [Json.parts, List.flatMap_map]
  induction ms with
  | nil => rfl
  | cons e ms ih => rw [memberFindings, ih, List.flatMap_cons]

lemma itemFindings_eq (xs : List Json) :
    itemFindings source n xs = (Json.array xs).parts.flatMap fun e => findings source n e.2 := by
  have hitems : itemFindings source n xs = xs.flatMap (findings source n) := by
    induction xs with
    | nil => rfl
    | cons x xs ih => rw [itemFindings, ih, List.flatMap_cons]
  rw [hitems, Json.parts, List.flatMap_map, ← List.flatMap_map Prod.fst, List.zipIdx_map_fst]

/-- At the last level only the value itself is looked at. -/
lemma findings_zero (h : ∀ ms, v = .object ms → finding? source ms = none) :
    findings source 0 v = [] := by
  cases v with
  | object ms => simp only [findings, h ms rfl]
  | _ => simp only [findings]

/-- Above it, a value that is nothing itself is searched part by part. -/
lemma findings_succ (h : ∀ ms, v = .object ms → finding? source ms = none) :
    findings source (n + 1) v = v.parts.flatMap fun e => findings source n e.2 := by
  cases v with
  | object ms => simp only [findings, h ms rfl, memberFindings_eq]
  | array xs => simp only [findings, itemFindings_eq]
  | null | bool | number | text => simp [findings, Json.parts]

/-- The parts of a value are searched in the order of the steps to them. -/
lemma enumerates_parts (source : String) (h : v.Canonical)
    (hparts : ∀ e ∈ v.parts,
      Enumerates (List.Lex Step.Before) (Finds source n e.2) (findings source n e.2)) :
    Enumerates (List.Lex Step.Before)
      (fun p f => ∃ s x q, p = s :: q ∧ v.child? s = some x ∧ Finds source n x q f)
      (v.parts.flatMap fun e => findings source n e.2) := by
  have hmany : Enumerates (List.Lex Step.Before)
      (fun p f => ∃ e ∈ v.parts, ∃ q, p = e.1 :: q ∧ Finds source n e.2 q f)
      (v.parts.flatMap fun e => findings source n e.2) := by
    refine Enumerates.flatMap (Json.pairwise_parts h)
      (fun e he => (hparts e he).relocate (e.1 :: ·) fun _ _ => List.Lex.cons) ?_
    rintro e e' hbefore _ _ _ _ ⟨q, rfl, -⟩ ⟨q', rfl, -⟩
    exact .rel hbefore
  refine hmany.congr fun p f => ?_
  simp only [Json.child?_eq_some_iff h]
  constructor
  · rintro ⟨e, he, q, rfl, hfinds⟩
    exact ⟨e.1, e.2, q, rfl, he, hfinds⟩
  · rintro ⟨s, x, q, rfl, hmem, hfinds⟩
    exact ⟨(s, x), hmem, q, rfl, hfinds⟩

/-- **The search of a value** finds the objects that are something and lie in no other such object,
down to the last level, in their order. -/
theorem enumerates_findings (source : String) (n : Nat) (v : Json) (h : v.Canonical) :
    Enumerates (List.Lex Step.Before) (Finds source n v) (findings source n v) := by
  induction n using Nat.strong_induction_on generalizing v with
  | _ n ih =>
  by_cases hsome : ∃ ms f, v = .object ms ∧ finding? source ms = some f
  · -- what is inside is not looked at
    obtain ⟨ms, f, rfl, hfinding⟩ := hsome
    simp only [findings, hfinding]
    refine .singleton (s := []) fun p g => ?_
    cases p <;> simp [finds_nil_iff, finds_cons_iff, hfinding, eq_comm]
  · have hnone : ∀ ms, v = .object ms → finding? source ms = none := fun ms hv =>
      Option.eq_none_iff_forall_ne_some.mpr fun f hf => hsome ⟨ms, f, hv, hf⟩
    have hroot : ∀ f, ¬ Finds source n v [] f := fun f hf =>
      let ⟨ms, hv, hfinding⟩ := finds_nil_iff.mp hf
      hsome ⟨ms, f, hv, hfinding⟩
    cases n with
    | zero =>
        rw [findings_zero hnone]
        refine .nil fun p f hfinds => ?_
        cases p with
        | nil => exact hroot f hfinds
        | cons s p =>
            obtain ⟨-, m, x, hlevels, -⟩ := finds_cons_iff.mp hfinds
            cases hlevels
    | succ n =>
        rw [findings_succ hnone]
        have hparts := enumerates_parts source h fun e he =>
          ih n n.lt_succ_self e.2 (h.part he)
        refine hparts.congr fun p f => ?_
        constructor
        · rintro ⟨s, x, q, rfl, hchild, hfinds⟩
          exact finds_cons_iff.mpr ⟨hnone, n, x, rfl, hchild, hfinds⟩
        · intro hfinds
          cases p with
          | nil => exact absurd hfinds (hroot f)
          | cons s q =>
              obtain ⟨-, m, x, hlevels, hchild, hfinds⟩ := finds_cons_iff.mp hfinds
              cases hlevels
              exact ⟨s, x, q, rfl, hchild, hfinds⟩

/-! ## The first file of each id -/

/-- The files that are kept, with their places, if files with some ids have been seen. -/
lemma exists_placed_distinctFiles {σ : Type} {before : σ → σ → Prop} [Std.Asymm before]
    {placed : List (σ × FileRef)} (hordered : placed.Pairwise fun d e => before d.1 e.1)
    (seen : List String) :
    ∃ kept : List (σ × FileRef), kept.Sublist placed ∧
      kept.map Prod.snd = distinctFiles seen (placed.map Prod.snd) ∧
      ∀ e, e ∈ kept ↔ e ∈ placed ∧ e.2.fileId ∉ seen ∧
        ∀ d ∈ placed, before d.1 e.1 → d.2.fileId ≠ e.2.fileId := by
  induction placed generalizing seen with
  | nil => exact ⟨[], .slnil, rfl, by simp⟩
  | cons first placed ih =>
      obtain ⟨hfirst, hrest⟩ := List.pairwise_cons.mp hordered
      have hleast : ∀ d ∈ first :: placed, ¬ before d.1 first.1 := by
        rintro d hd hbefore
        rcases List.mem_cons.mp hd with rfl | hd
        · exact asymm hbefore hbefore
        · exact asymm hbefore (hfirst d hd)
      rw [List.map_cons, distinctFiles]
      split_ifs with hseen
      · obtain ⟨kept, hsub, hkept, hmem⟩ := ih hrest seen
        rw [List.contains_iff_mem] at hseen
        refine ⟨kept, hsub.cons first, hkept, fun e => ?_⟩
        rw [hmem]
        constructor
        · rintro ⟨he, hnew, hearlier⟩
          refine ⟨List.mem_cons_of_mem _ he, hnew, List.forall_mem_cons.mpr ⟨fun _ heq => ?_,
            hearlier⟩⟩
          exact hnew (heq ▸ hseen)
        · rintro ⟨he, hnew, hearlier⟩
          rcases List.mem_cons.mp he with rfl | he
          · exact absurd hseen hnew
          · exact ⟨he, hnew, (List.forall_mem_cons.mp hearlier).2⟩
      · obtain ⟨kept, hsub, hkept, hmem⟩ := ih hrest (first.2.fileId :: seen)
        rw [List.contains_iff_mem] at hseen
        refine ⟨first :: kept, hsub.cons_cons first, by rw [List.map_cons, hkept], fun e => ?_⟩
        rw [List.mem_cons, hmem]
        constructor
        · rintro (rfl | ⟨he, hnew, hearlier⟩)
          · exact ⟨List.mem_cons_self, hseen, fun d hd hbefore => absurd hbefore (hleast d hd)⟩
          · obtain ⟨hother, hnew⟩ := List.ne_and_not_mem_of_not_mem_cons hnew
            exact ⟨List.mem_cons_of_mem _ he, hnew,
              List.forall_mem_cons.mpr ⟨fun _ => hother.symm, hearlier⟩⟩
        · rintro ⟨he, hnew, hearlier⟩
          obtain ⟨hother, hearlier⟩ := List.forall_mem_cons.mp hearlier
          rcases List.mem_cons.mp he with rfl | he
          · exact .inl rfl
          · refine .inr ⟨he, List.not_mem_cons_of_ne_of_not_mem ?_ hnew, hearlier⟩
            exact (hother (hfirst e he)).symm

/-- **Of files with one id the first is kept.** -/
theorem enumerates_distinctFiles {σ : Type} {before : σ → σ → Prop} [Std.Asymm before]
    {found : σ → FileRef → Prop} {files : List FileRef} (h : Enumerates before found files) :
    Enumerates before
      (fun s f => found s f ∧ ∀ t g, before t s → found t g → g.fileId ≠ f.fileId)
      (distinctFiles [] files) := by
  obtain ⟨placed, hordered, hmem, rfl⟩ := h
  obtain ⟨kept, hsub, hkept, hfirst⟩ := exists_placed_distinctFiles hordered []
  refine ⟨kept, hordered.sublist hsub, fun s f => ?_, hkept⟩
  simp only [hfirst, Prod.forall, hmem, List.not_mem_nil, not_false_eq_true, true_and]
  exact and_congr_right fun _ => ⟨fun hall t g hbefore hg => hall t g hg hbefore,
    fun hall t g hg hbefore => hall t g hbefore hg⟩

lemma nodup_distinctFiles (files : List FileRef) (seen : List String) :
    ((distinctFiles seen files).map FileRef.fileId).Nodup ∧
      ∀ f ∈ distinctFiles seen files, f.fileId ∉ seen := by
  induction files generalizing seen with
  | nil => simp [distinctFiles]
  | cons f files ih =>
      rw [distinctFiles]
      split_ifs with hseen
      · exact ih seen
      · obtain ⟨hnodup, hnew⟩ := ih (f.fileId :: seen)
        rw [List.contains_iff_mem] at hseen
        refine ⟨?_, List.forall_mem_cons.mpr ⟨hseen, fun g hg => ?_⟩⟩
        · rw [List.map_cons, List.nodup_cons]
          refine ⟨fun hmem => ?_, hnodup⟩
          obtain ⟨g, hg, heq⟩ := List.mem_map.mp hmem
          exact hnew g hg (heq ▸ List.mem_cons_self)
        · exact List.not_mem_of_not_mem_cons (hnew g hg)

end Response

/-! ## Places in the outputs -/

open Json (Step)

/-- A place in the outputs of a workflow's blocks: the position of a block, and the steps that lead
into its outputs. -/
structure Site where
  block : Nat
  path : List Step
  deriving DecidableEq, Repr

/-- Places come in the order of the blocks in a plan, and inside a block an object comes before its
parts and these in their order. -/
def Site.Before (p : Plan) (s t : Site) : Prop :=
  p.rank s.block < p.rank t.block ∨ s.block = t.block ∧ List.Lex Step.Before s.path t.path

instance (p : Plan) : Std.Asymm (Site.Before p) where
  asymm := by
    rintro s t (hlt | ⟨heq, hlex⟩) (hlt' | ⟨heq', hlex'⟩)
    · exact lt_asymm hlt hlt'
    · exact hlt.ne (congrArg p.rank heq'.symm)
    · exact hlt'.ne (congrArg p.rank heq.symm)
    · exact asymm hlex hlex'

/-- **A place shows an object**: it is at most four levels below an output of a block, and no object
around it is an artifact or a file. -/
inductive Site.Shows (w : Workflow) (result : ExecutionResult) : Site → Block → Json.Object → Prop
  | object {i : Nat} {b : Block} {state : BlockState} {output : String} {value : Json}
    {path : List Step} {ms : Json.Object} (block : w.blocks[i]? = some b)
    (recorded : result.blockStates.get? b.id = some state)
    (present : Table.get? state.outputs output = some value)
    (object : value.at? path = some (.object ms)) (depth : path.length ≤ 4)
    (outermost : ∀ above outer, above <+: path → above ≠ path →
      value.at? above = some (.object outer) →
        (∀ a, ¬ Response.IsArtifact b.id outer a) ∧ ∀ f, ¬ Response.IsFile b.id outer f) :
    Shows w result ⟨i, .member output :: path⟩ b ms

namespace Response

variable {w : Workflow} {plan : Plan} {result : ExecutionResult}

/-- What the outputs of one block hold. -/
lemma enumerates_blockFindings {i : Nat} {b : Block} (hb : w.blocks[i]? = some b)
    (hcanonical : ∀ state, result.blockStates.get? b.id = some state →
      (Json.object state.outputs).Canonical) :
    Enumerates (Site.Before plan)
      (fun site f => site.block = i ∧ ∃ b ms, site.Shows w result b ms ∧ finding? b.id ms = some f)
      (blockFindings result b) := by
  rw [blockFindings]
  cases hstate : result.blockStates.get? b.id with
  | none =>
      refine .nil ?_
      rintro s f ⟨rfl, b', ms, ⟨hb', hstate', -, -, -, -⟩, -⟩
      cases hb.symm.trans hb'
      cases hstate.symm.trans hstate'
  | some state =>
      have hcanonical := hcanonical state hstate
      have hsearch := enumerates_parts b.id hcanonical fun e he =>
        enumerates_findings b.id searchDepth e.2 (hcanonical.part he)
      rw [← memberFindings_eq] at hsearch
      have hplaced : Enumerates (Site.Before plan) _ _ :=
        hsearch.relocate (Site.mk i) fun p q hlex => .inr ⟨rfl, hlex⟩
      refine hplaced.congr fun site f => ?_
      constructor
      · rintro ⟨_, rfl, s, x, path, rfl, hchild, hdepth, ⟨ms, hat, hfinding⟩, hout⟩
        cases s with
        | item index => cases hchild
        | member output =>
            refine ⟨rfl, b, ms, .object hb hstate hchild hat hdepth ?_, hfinding⟩
            exact fun above outer hprefix hne houter =>
              finding?_eq_none_iff.mp (hout above outer hprefix hne houter)
      · rintro ⟨rfl, b', ms, ⟨hb', hstate', hget, hat, hdepth, hout⟩, hfinding⟩
        cases hb.symm.trans hb'
        cases hstate.symm.trans hstate'
        refine ⟨_, rfl, _, _, _, rfl, hget, hdepth, ⟨ms, hat, hfinding⟩, ?_⟩
        exact fun above outer hprefix hne houter =>
          finding?_eq_none_iff.mpr (hout above outer hprefix hne houter)

/-- **What the outputs of all blocks hold**, block after block as planned. -/
theorem enumerates_found (hplan : Plan.build w = .ok plan)
    (hcanonical : ∀ b ∈ w.blocks, ∀ state, result.blockStates.get? b.id = some state →
      (Json.object state.outputs).Canonical) :
    Enumerates (Site.Before plan)
      (fun site f => ∃ b ms, site.Shows w result b ms ∧ finding? b.id ms = some f)
      ((orderedBlocks w).flatMap (blockFindings result)) := by
  have hlawful := Plan.lawful_of_build hplan
  have hordered : orderedBlocks w = plan.order.flatMap fun i => (w.blocks[i]?).toList := by
    simp only [orderedBlocks, hplan, List.filterMap_eq_flatMap_toList]
  rw [hordered, List.flatMap_assoc]
  have hblocks : Enumerates (Site.Before plan)
      (fun site f => ∃ i ∈ plan.order,
        site.block = i ∧ ∃ b ms, site.Shows w result b ms ∧ finding? b.id ms = some f)
      (plan.order.flatMap fun i => (w.blocks[i]?).toList.flatMap (blockFindings result)) := by
    refine Enumerates.flatMap hlawful.pairwise_rank_lt (fun i hi => ?_) ?_
    · obtain ⟨b, hb⟩ : ∃ b, w.blocks[i]? = some b :=
        ⟨_, List.getElem?_eq_getElem (hlawful.mem_order.mp hi)⟩
      rw [hb, Option.toList_some, List.flatMap_singleton]
      exact enumerates_blockFindings hb (hcanonical b (List.mem_of_getElem? hb))
    · rintro i j hlt s f t g ⟨rfl, -⟩ ⟨rfl, -⟩
      exact .inl hlt
  refine hblocks.congr fun site f => ?_
  constructor
  · rintro ⟨_, -, -, hshows⟩
    exact hshows
  · rintro ⟨b, ms, hshows, hfinding⟩
    refine ⟨site.block, ?_, rfl, b, ms, hshows, hfinding⟩
    cases hshows with
    | object block =>
        exact hlawful.mem_order.mpr (List.getElem?_eq_some_iff.mp block).1

/-- **The artifacts and the files of a response.**  For a workflow that has a plan, and a result
whose outputs are JSON values with sorted objects:

* The plan is an order of the blocks in which every connection points forward.
* The artifacts are exactly the charts and images with their data that are at most four levels below
  an output and inside no artifact or file, each with the id of its block, in the order of places.
* The files are likewise exactly the other objects with an id and a name, of each id only the first.
* No two files have the same id. -/
theorem build_findings (executionId : String) (durationMs : Nat) (policy : ResultPolicy)
    (hplan : Plan.build w = .ok plan)
    (hcanonical : ∀ b ∈ w.blocks, ∀ state, result.blockStates.get? b.id = some state →
      (Json.object state.outputs).Canonical) :
    let response := build result w executionId durationMs policy
    let HoldsFile (site : Site) (f : FileRef) : Prop :=
      ∃ b ms, site.Shows w result b ms ∧ IsFile b.id ms f
    (∀ u v, w.Links u v → plan.rank u < plan.rank v) ∧
    Enumerates (Site.Before plan)
      (fun site a => ∃ b ms, site.Shows w result b ms ∧ IsArtifact b.id ms a)
      response.artifacts ∧
    Enumerates (Site.Before plan)
      (fun site f => HoldsFile site f ∧
        ∀ earlier g, earlier.Before plan site → HoldsFile earlier g → g.fileId ≠ f.fileId)
      response.files ∧
    (response.files.map FileRef.fileId).Nodup := by
  intro response HoldsFile
  have hlawful := Plan.lawful_of_build hplan
  have hids := (Plan.wellFormed_of_build hplan).ids
  have hfound := enumerates_found hplan hcanonical
  refine ⟨fun u v hlinks => ?_, ?_, ?_, (nodup_distinctFiles _ []).1⟩
  · exact hlawful.rank_lt ((hlawful.edges u v).mpr ((Workflow.links_iff_joins hids).mp hlinks))
  · simp only [← finding?_eq_artifact_iff]
    exact hfound.filterMap fun x a => by cases x <;> simp
  · simp only [HoldsFile, ← finding?_eq_file_iff]
    exact enumerates_distinctFiles (hfound.filterMap fun x f => by cases x <;> simp)

/-- A block draws a chart with an image inside and offers a file.  The block behind it, which stands
first in the workflow, offers a file of the same id and a chart without data. -/
theorem build_findings_drawing :
    let block (id : String) : Block := { id, normalizedId := id, config := .variable {} }
    let w : Workflow :=
      { blocks := [block "show", block "draw"], connections := [.between "draw" "show"] }
    let image : Json := .object [("data", .text "i"), ("type", .text "image")]
    let chart : Json := .object [("data", .text "c"), ("inside", image), ("type", .text "chart")]
    let file : Json := .object [("fileId", .text "f"), ("filename", .text "plot.pdf")]
    let copy : Json := .object [("file_id", .text "f"), ("filename", .text "copy.pdf")]
    let empty : Json := .object [("type", .text "chart")]
    let result : ExecutionResult :=
      { executionId := "e"
        status := .completed
        output := []
        blockStates :=
          [("draw", { status := .completed, outputs := [("all", .array [chart, file])] }),
            ("show", { status := .completed, outputs := [("copy", copy), ("empty", empty)] })]
        startedAt := default
        completedAt := default }
    let response := build result w "e" 0 .lastSink
    Plan.build w = .ok ⟨2, [(1, 0)], [1, 0]⟩ ∧
      (∀ a, (∃ site b ms, Site.Shows w result site b ms ∧ IsArtifact b.id ms a) ↔
        a = { kind := "chart", data := "c", sourceBlock := "draw" }) ∧
      response.files = [{ fileId := "f", filename := "plot.pdf", sourceBlock := "draw" }] ∧
      (response.files.map FileRef.fileId).Nodup := by
  intro block w image chart file copy empty result response
  have hplan : Plan.build w = .ok ⟨2, [(1, 0)], [1, 0]⟩ := by rfl
  have hcanonical : ∀ b ∈ w.blocks, ∀ state, result.blockStates.get? b.id = some state →
      (Json.object state.outputs).Canonical := by
    intro b hb state hstate
    rcases List.mem_pair.mp hb with rfl | rfl
    all_goals
      cases hstate
      simp only [image, chart, file, copy, empty, Json.Canonical, Json.CanonicalMembers,
        Json.CanonicalItems]
      decide +kernel
  obtain ⟨-, hartifacts, -, hnodup⟩ := build_findings "e" 0 .lastSink hplan hcanonical
  have hlisted : response.artifacts =
      [{ kind := "chart", data := "c", sourceBlock := "draw" }] := by
    decide
  refine ⟨hplan, fun a => ?_, by decide, hnodup⟩
  rw [← hartifacts.mem_iff]
  exact (congrArg (a ∈ ·) hlisted).to_iff.trans List.mem_singleton

end Response

end Blockflow
