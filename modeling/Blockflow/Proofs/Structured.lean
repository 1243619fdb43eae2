import Blockflow.Proofs.Json.Extent
import Blockflow.Structured
import Mathlib.Data.List.DropRight
import Mathlib.Data.List.Permutation

/-!
# Answers that are JSON already

The JSON of an answer is cut out of it before anything is read: what stands in a fenced block, else
what stands between braces.  So an answer that is nothing but JSON may be cut too, inside one of its
texts or between the items of an array.  It is left as it is exactly if it holds no two fences and,
where it is an array, no closing brace stands behind an opening one.

* `Structured.Cut`, `Structured.cut_of_cut?` — the first occurrence of a pattern.
* `Unfenced`, `fenced?_eq_none_iff` — texts without a fenced block.
* `Unbraced`, `braced?_eq_none_iff` — texts without braces in their order.
* `extract_of_lists` — an object without fences is left as it is.
* **`parse_pure`** — which answers that are JSON are read as that.
-/

namespace Blockflow

/-! ## Trimmed texts -/

namespace Text

variable {cs rest : List Char} {c : Char}

lemma trimChars_eq (cs : List Char) : trimChars cs = (dropBlanks cs).rdropWhile isBlank := rfl

lemma length_trimChars_le (cs : List Char) : (trimChars cs).length ≤ cs.length :=
  (List.rdropWhile_prefix _ _).length_le.trans (List.dropWhile_suffix _).length_le

/-- A trimmed text begins with no blank. -/
lemma isBlank_of_trimChars_eq_cons (h : trimChars cs = c :: rest) : isBlank c = false := by
  obtain ⟨back, hback⟩ := List.rdropWhile_prefix isBlank (dropBlanks cs)
  have hdrop : cs.dropWhile isBlank = c :: (rest ++ back) := by
    change dropBlanks cs = _
    rw [← hback, ← trimChars_eq, h, List.cons_append]
  have hne : cs.dropWhile isBlank ≠ [] := by simp [hdrop]
  have hhead := List.head_dropWhile_not isBlank hne
  simpa only [hdrop, List.head_cons] using hhead

/-- A trimmed text has no blanks at its end. -/
lemma eq_nil_of_trimChars_eq_append {front back : List Char} (h : trimChars cs = front ++ back)
    (hblank : ∀ c ∈ back, isBlank c = true) : back = [] := by
  by_contra hne
  have htrimmed : trimChars cs ≠ [] := by simp [h, hne]
  have hlast := List.rdropWhile_last_not isBlank (dropBlanks cs) htrimmed
  refine hlast (hblank _ ?_)
  have hsame : (trimChars cs).getLast htrimmed = back.getLast hne := by
    simp only [h, List.getLast_append_of_ne_nil _ hne]
  exact hsame ▸ List.getLast_mem hne

end Text

/-- A blank of the format is a blank. -/
lemma Json.text_isBlank_of_isBlank {c : Char} (h : Json.isBlank c = true) :
    Text.isBlank c = true := by
  simp only [Json.isBlank, Bool.or_eq_true, decide_eq_true_eq] at h
  rcases h with ((rfl | rfl) | rfl) | rfl <;> decide

/-- In front of a trimmed text there is nothing to skip. -/
lemma Json.skipBlanks_trimChars (cs : List Char) :
    skipBlanks (Text.trimChars cs) = Text.trimChars cs := by
  cases h : Text.trimChars cs with
  | nil => rfl
  | cons c rest =>
      refine List.dropWhile_cons_of_neg fun hc => ?_
      have := Text.isBlank_of_trimChars_eq_cons h
      rw [Json.text_isBlank_of_isBlank hc] at this
      cases this

namespace Structured

variable {pattern opening cs front back inside : List Char}

/-! ## The first occurrence -/

/-- **Where a pattern is not found, it is not there.** -/
lemma cut?_eq_none_iff : cut? pattern cs = none ↔ ¬ pattern <:+: cs := by
  induction cs with
  | nil =>
      rw [cut?]
      cases pattern <;> simp
  | cons c cs ih =>
      rw [cut?, List.infix_cons_iff, ← List.isPrefixOf_iff_prefix]
      by_cases h : pattern.isPrefixOf (c :: cs) = true
      · simp [h]
      · simp [h, ih]

/-- **The first occurrence of a pattern**: no other one leaves more behind it. -/
structure Cut (pattern cs front back : List Char) : Prop where
  spelled : cs = front ++ pattern ++ back
  first : ∀ x y, cs = x ++ pattern ++ y → y <:+ back

/-- A pattern at the start of a text. -/
lemma cut_of_start (h : pattern.isPrefixOf cs = true) :
    Cut pattern cs [] (cs.drop pattern.length) where
  spelled := (List.prefix_iff_eq_append.mp (List.isPrefixOf_iff_prefix.mp h)).symm
  first x y hcs := by
    have hy : y <:+ cs := ⟨x ++ pattern, hcs.symm⟩
    refine List.suffix_of_suffix_length_le hy (List.drop_suffix _ _) ?_
    simp only [hcs, List.length_drop, List.length_append]
    omega

/-- **A text is cut at the first occurrence.** -/
lemma cut_of_cut? (h : cut? pattern cs = some (front, back)) : Cut pattern cs front back := by
  induction cs generalizing front with
  | nil =>
      rw [cut?] at h
      split_ifs at h with hstart
      cases h
      exact cut_of_start hstart
  | cons c cs ih =>
      rw [cut?] at h
      split_ifs at h with hstart
      · cases h
        exact cut_of_start hstart
      · obtain ⟨⟨front, back⟩, hcut, heq⟩ := Option.map_eq_some_iff.mp h
        cases heq
        refine ⟨by simp [(ih hcut).spelled], fun x y hcs => ?_⟩
        cases x with
        | nil => exact absurd (List.isPrefixOf_iff_prefix.mpr ⟨y, hcs.symm⟩) hstart
        | cons d x => exact (ih hcut).first x y (List.cons.inj hcs).2

/-! ## Fences -/

/-- What a fenced block stands between. -/
def fence : List Char := ['\x60', '\x60', '\x60']

/-- **A text without a fenced block**: there are no two fences, one behind the other. -/
def Unfenced (cs : List Char) : Prop := ∀ inside, ¬ fence ++ inside ++ fence <:+: cs

/-- What is found behind an opening mark stands between it and a fence. -/
lemma exists_block_of_fenced? (h : fenced? opening cs = some inside) :
    ∃ block, inside = Text.trimChars block ∧ opening ++ block ++ fence <:+: cs := by
  unfold fenced? at h
  obtain ⟨⟨front, after⟩, hopen, h⟩ := Option.bind_eq_some_iff.mp h
  obtain ⟨⟨block, back⟩, hclose, h⟩ := Option.bind_eq_some_iff.mp h
  refine ⟨block, (Option.some.inj h).symm, front, back, ?_⟩
  rw [(cut_of_cut? hopen).spelled, (cut_of_cut? hclose).spelled]
  simp [fence]

lemma fenced?_of_cut? (h : cut? opening cs = some (front, back)) :
    fenced? opening cs = (cut? fence back).map fun r => Text.trimChars r.1 := by
  unfold fenced?
  rw [h]
  change (cut? fence back).bind _ = _
  cases cut? fence back <;> rfl

/-- **Where no fenced block is found, there is none.** -/
lemma fenced?_eq_none_iff :
    fenced? opening cs = none ↔ ∀ block, ¬ opening ++ block ++ fence <:+: cs := by
  constructor
  · rintro h block ⟨x, y, hcs⟩
    have hopening : cs = x ++ opening ++ (block ++ fence ++ y) := by simp [← hcs]
    cases hopen : cut? opening cs with
    | none => exact cut?_eq_none_iff.mp hopen ⟨x, block ++ fence ++ y, hopening.symm⟩
    | some r =>
        rw [fenced?_of_cut? hopen, Option.map_eq_none_iff, cut?_eq_none_iff] at h
        have hback := (cut_of_cut? hopen).first _ _ hopening
        exact h ((List.infix_append block fence y).trans hback.isInfix)
  · intro h
    cases hfound : fenced? opening cs with
    | none => rfl
    | some inside =>
        obtain ⟨block, -, hblock⟩ := exists_block_of_fenced? hfound
        exact absurd hblock (h block)

lemma fenced?_fence_eq_none_iff : fenced? fence cs = none ↔ Unfenced cs := fenced?_eq_none_iff

/-- A fenced block is shorter than the text. -/
lemma length_lt_of_fenced? (h : fenced? opening cs = some inside) : inside.length < cs.length := by
  obtain ⟨block, rfl, hblock⟩ := exists_block_of_fenced? h
  have hle := hblock.length_le
  simp only [fence, List.length_append, List.length_cons, List.length_nil] at hle
  have hblock := Text.length_trimChars_le block
  omega

/-! ## Braces -/

/-- **A text without braces in their order**: no closing one stands behind an opening one. -/
def Unbraced (cs : List Char) : Prop := ¬ ['\x7b', '\x7d'].Sublist cs

lemma braced?_eq (cs : List Char) :
    let outer := (cs.dropWhile (· ≠ '\x7b')).rdropWhile (· ≠ '\x7d')
    braced? cs = if 2 ≤ outer.length then some outer else none := rfl

/-- What is found between braces begins and ends with them. -/
lemma eq_of_braced? (h : braced? cs = some inside) :
    ∃ inner, inside = '\x7b' :: (inner ++ ['\x7d']) ∧ inside <:+: cs := by
  rw [braced?_eq] at h
  split_ifs at h with hlength
  have hne : (cs.dropWhile (· ≠ '\x7b')).rdropWhile (· ≠ '\x7d') ≠ [] :=
    List.length_pos_iff.mp (by omega)
  have houter := List.rdropWhile_prefix (· ≠ '\x7d') (cs.dropWhile (· ≠ '\x7b'))
  have hlast := List.rdropWhile_last_not _ _ hne
  have hhead := List.head_dropWhile_not (· ≠ '\x7b') (houter.ne_nil hne)
  rw [← houter.head hne] at hhead
  generalize (cs.dropWhile (· ≠ '\x7b')).rdropWhile (· ≠ '\x7d') = outer at *
  obtain rfl : outer = inside := Option.some.inj h
  match outer, hlength with
  | c :: d :: behind, _ =>
      obtain rfl : c = '\x7b' := not_not.mp (of_decide_eq_false hhead)
      refine ⟨(d :: behind).dropLast, ?_, houter.isInfix.trans (List.dropWhile_suffix _).isInfix⟩
      have hclose : (d :: behind).getLast (List.cons_ne_nil _ _) = '\x7d' := by simpa using hlast
      rw [← hclose, List.dropLast_append_getLast]

/-- **From the first opening brace to the last closing one.** -/
lemma braced?_append {x y : List Char} (inner : List Char) (hx : '\x7b' ∉ x) (hy : '\x7d' ∉ y) :
    braced? (x ++ '\x7b' :: (inner ++ '\x7d' :: y)) = some ('\x7b' :: (inner ++ ['\x7d'])) := by
  have hfront : ∀ c ∈ x, decide (c ≠ '\x7b') = true := by
    intro c hc
    simpa using ne_of_mem_of_not_mem hc hx
  have hback : ∀ c ∈ y.reverse, decide (c ≠ '\x7d') = true := by
    intro c hc
    simpa using ne_of_mem_of_not_mem (List.mem_reverse.mp hc) hy
  have houter : (x ++ '\x7b' :: (inner ++ '\x7d' :: y)).dropWhile (· ≠ '\x7b') =
      '\x7b' :: (inner ++ '\x7d' :: y) := by
    rw [List.dropWhile_append_of_pos hfront, List.dropWhile_cons_of_neg (by simp)]
  have hdrop : ('\x7b' :: (inner ++ '\x7d' :: y)).rdropWhile (· ≠ '\x7d') =
      '\x7b' :: (inner ++ ['\x7d']) := by
    have hreverse : ('\x7b' :: (inner ++ '\x7d' :: y)).reverse =
        y.reverse ++ '\x7d' :: ('\x7b' :: inner).reverse := by simp
    rw [List.rdropWhile, hreverse, List.dropWhile_append_of_pos hback,
      List.dropWhile_cons_of_neg (by simp)]
    simp
  rw [braced?_eq, houter, hdrop, if_pos (by simp)]

/-- **Where no braces are found, there are none in their order.** -/
lemma braced?_eq_none_iff : braced? cs = none ↔ Unbraced cs := by
  constructor
  · intro h hsub
    -- the first opening brace is in the front part, and the last closing one in the back part
    obtain ⟨r₁, r₂, rfl, hopen, hclose⟩ := List.cons_sublist_iff.mp hsub
    obtain ⟨x, inner, rfl, hx⟩ := List.eq_append_cons_of_mem hopen
    obtain ⟨y, behind, hr₂, hy⟩ :=
      List.eq_append_cons_of_mem (List.mem_reverse.mpr (List.singleton_sublist.mp hclose))
    have hsplit : r₂ = behind.reverse ++ '\x7d' :: y.reverse := by
      rw [← List.reverse_reverse r₂, hr₂]
      simp
    rw [hsplit, List.append_assoc, List.cons_append, ← List.append_assoc inner,
      braced?_append _ hx (by simpa using hy)] at h
    cases h
  · intro h
    cases hfound : braced? cs with
    | none => rfl
    | some inside =>
        obtain ⟨inner, rfl, hinside⟩ := eq_of_braced? hfound
        refine absurd (List.Sublist.trans ?_ hinside.sublist) h
        simp

/-! ## Extraction -/

variable {answer : String} {v : Json} {ms : List (String × Json.Draft)}

lemma toList_trim (answer : String) :
    (Text.trim answer).toList = Text.trimChars answer.toList := String.toList_ofList

lemma extract_eq (answer : String) :
    let cs := (Text.trim answer).toList
    extract answer = String.ofList ((fenced? (fence ++ ['j', 's', 'o', 'n']) cs).getD
      ((fenced? fence cs).getD ((braced? cs).getD cs))) := by
  rw [toList_trim]
  rfl

/-- Without a fenced block, what stands between braces is taken. -/
lemma extract_of_unfenced (h : Unfenced (Text.trim answer).toList) :
    extract answer =
      String.ofList ((braced? (Text.trim answer).toList).getD (Text.trim answer).toList) := by
  have hjson : fenced? (fence ++ ['j', 's', 'o', 'n']) (Text.trim answer).toList = none := by
    refine fenced?_eq_none_iff.mpr fun block hblock => h (['j', 's', 'o', 'n'] ++ block) ?_
    simpa using hblock
  rw [extract_eq, hjson, fenced?_fence_eq_none_iff.mpr h, Option.getD_none, Option.getD_none]

/-- **A fenced block is cut out**, so that the answer is not left as it is. -/
lemma extract_ne_of_fenced (h : ¬ Unfenced (Text.trim answer).toList) :
    extract answer ≠ Text.trim answer := by
  have hcut : ∃ opening inside, fenced? opening (Text.trim answer).toList = some inside ∧
      extract answer = String.ofList inside := by
    rw [extract_eq]
    cases hjson : fenced? (fence ++ ['j', 's', 'o', 'n']) (Text.trim answer).toList with
    | some inside => exact ⟨_, inside, hjson, by rw [Option.getD_some]⟩
    | none =>
        obtain ⟨inside, hany⟩ :=
          Option.ne_none_iff_exists'.mp (mt fenced?_fence_eq_none_iff.mp h)
        exact ⟨_, inside, hany, by rw [hany, Option.getD_none, Option.getD_some]⟩
  -- whichever mark opens the block, it is shorter than the text by its fences
  obtain ⟨opening, inside, hinside, hextract⟩ := hcut
  intro heq
  have hlength := length_lt_of_fenced? hinside
  rw [← heq, hextract, String.toList_ofList] at hlength
  exact lt_irrefl _ hlength

/-- The trimmed text of an object begins and ends with a brace. -/
lemma exists_inner_of_lists (h : Json.Document.Lists (Text.trim answer) ms) :
    ∃ inner, (Text.trim answer).toList = '\x7b' :: (inner ++ ['\x7d']) := by
  obtain ⟨inner, back, hbraces, hback⟩ := h.braces
  rw [toList_trim, Json.skipBlanks_trimChars] at hbraces
  have hblank : ∀ c ∈ back, Text.isBlank c = true := fun c hc =>
    Json.text_isBlank_of_isBlank (List.dropWhile_eq_nil_iff.mp hback c hc)
  have hsplit : Text.trimChars answer.toList = ('\x7b' :: (inner ++ ['\x7d'])) ++ back := by
    simp [hbraces]
  obtain rfl := Text.eq_nil_of_trimChars_eq_append hsplit hblank
  exact ⟨inner, by rw [toList_trim, hbraces]⟩

/-- **An object without fences is left as it is.** -/
theorem extract_of_lists (h : Json.Document.Lists (Text.trim answer) ms)
    (hunfenced : Unfenced (Text.trim answer).toList) : extract answer = Text.trim answer := by
  obtain ⟨inner, hinner⟩ := exists_inner_of_lists h
  have hbraced : braced? (Text.trim answer).toList = some (Text.trim answer).toList := by
    rw [hinner]
    exact braced?_append inner List.not_mem_nil List.not_mem_nil
  rw [extract_of_unfenced hunfenced, hbraced, Option.getD_some, String.ofList_toList]

/-! ## Values -/

/-- Without a schema an answer has the value of what is cut out of it. -/
lemma parse_none (answer : String) :
    parse answer none =
      (Json.parse (extract answer)).mapError fun wording =>
        ["Output is not valid JSON: " ++ wording] := by
  unfold parse
  cases Json.parse (extract answer) <;> rfl

lemma parse_none_eq_ok_iff : parse answer none = .ok v ↔ Json.parse (extract answer) = .ok v := by
  rw [parse_none]
  cases Json.parse (extract answer) <;> simp [Except.mapError]

lemma hasType_object_iff : hasType v "object" = true ↔ ∃ members, v = .object members := by
  cases v <;> simp [hasType]

lemma hasType_array_iff : hasType v "array" = true ↔ ∃ xs, v = .array xs := by
  cases v <;> simp [hasType]

/-- **Braces take the place of an array**: where there are some in their order, what is cut out of a
text without fences is no array. -/
lemma unbraced_of_parse_extract {xs : List Json} (hunfenced : Unfenced (Text.trim answer).toList)
    (h : Json.parse (extract answer) = .ok (.array xs)) : Unbraced (Text.trim answer).toList := by
  rw [← braced?_eq_none_iff]
  cases hbraced : braced? (Text.trim answer).toList with
  | none => rfl
  | some inside =>
      obtain ⟨inner, rfl, -⟩ := eq_of_braced? hbraced
      obtain ⟨rest, hrest⟩ := Json.Document.bracket_of_parse h
      rw [extract_of_unfenced hunfenced, hbraced, Option.getD_some, String.toList_ofList,
        Json.skipBlanks_cons (by decide)] at hrest
      cases hrest

/-- **Which answers that are JSON are read as that.**  The text of an object or array is left as it
is exactly if it has no fenced block and, where it is an array, no braces in their order; and if it
has no fenced block, its value is found exactly then. -/
theorem parse_pure (h : Json.parse (Text.trim answer) = .ok v)
    (hv : hasType v "object" = true ∨ hasType v "array" = true) :
    let cs := (Text.trim answer).toList
    (extract answer = Text.trim answer ↔
        Unfenced cs ∧ (hasType v "object" = true ∨ Unbraced cs)) ∧
      (Unfenced cs → (parse answer none = .ok v ↔ hasType v "object" = true ∨ Unbraced cs)) := by
  intro cs
  have hwhole : Unfenced cs → hasType v "object" = true ∨ Unbraced cs →
      extract answer = Text.trim answer := by
    rintro hunfenced (hobject | hunbraced)
    · obtain ⟨members, rfl⟩ := hasType_object_iff.mp hobject
      obtain ⟨ms, hms⟩ := Json.Document.Lists.of_parse h
      exact extract_of_lists hms hunfenced
    · rw [extract_of_unfenced hunfenced, braced?_eq_none_iff.mpr hunbraced, Option.getD_none,
        String.ofList_toList]
  have hcut : Unfenced cs → Json.parse (extract answer) = .ok v →
      hasType v "object" = true ∨ Unbraced cs := by
    intro hunfenced hextract
    refine hv.imp_right fun harray => ?_
    obtain ⟨xs, rfl⟩ := hasType_array_iff.mp harray
    exact unbraced_of_parse_extract hunfenced hextract
  refine ⟨⟨fun heq => ?_, fun ⟨hunfenced, hshape⟩ => hwhole hunfenced hshape⟩, fun hunfenced => ?_⟩
  · have hunfenced : Unfenced cs := not_not.mp fun hfenced => extract_ne_of_fenced hfenced heq
    exact ⟨hunfenced, hcut hunfenced (heq ▸ h)⟩
  · rw [parse_none_eq_ok_iff]
    exact ⟨hcut hunfenced, fun hshape => (hwhole hunfenced hshape).symm ▸ h⟩

/-- An array with a fence and braces in its text, between blanks. -/
theorem parse_pure_array :
    Json.parse (Text.trim "\n [\"\x60\x60\x60 \x7d \x7b\", [true]] ") =
        .ok (.array [.text "\x60\x60\x60 \x7d \x7b", .array [.bool true]]) ∧
      parse "\n [\"\x60\x60\x60 \x7d \x7b\", [true]] " none =
        .ok (.array [.text "\x60\x60\x60 \x7d \x7b", .array [.bool true]]) := by
  have hread : Json.Document.read (Text.trim "\n [\"\x60\x60\x60 \x7d \x7b\", [true]] ") =
      ⟨.array [.text "\x60\x60\x60 \x7d \x7b", .array [.bool true]], false⟩ := by cbv
  have h := Json.Document.parse_of_read hread rfl
  have hunfenced : Unfenced
      (Text.trim "\n [\"\x60\x60\x60 \x7d \x7b\", [true]] ").toList :=
    fenced?_fence_eq_none_iff.mp (by cbv)
  have hunbraced : Unbraced
      (Text.trim "\n [\"\x60\x60\x60 \x7d \x7b\", [true]] ").toList :=
    braced?_eq_none_iff.mp (by cbv)
  exact ⟨h, ((parse_pure h (.inr rfl)).2 hunfenced).mpr (.inr hunbraced)⟩

/-- The text of an object whose member is a fenced block. -/
def quotedBlock : String := "\x7b\"a\":\"\x60\x60\x60x\x60\x60\x60\"\x7d"

/-- The text of an array of an object. -/
def singleton : String := "[\x7b\"a\":true\x7d]"

/-- **The text of an object is cut inside a text that quotes a block, and the text of an array of
objects at its braces.** -/
theorem pure_answer_cut :
    (Json.parse quotedBlock = .ok (.object [("a", .text "\x60\x60\x60x\x60\x60\x60")]) ∧
      parse quotedBlock none = .error ["Output is not valid JSON: expected value"]) ∧
    (Json.parse singleton = .ok (.array [.object [("a", .bool true)]]) ∧
      parse singleton none = .ok (.object [("a", .bool true)])) := by
  have hblock : Json.Document.read quotedBlock =
      ⟨.object [(.text "a", .text "\x60\x60\x60x\x60\x60\x60")], false⟩ := by cbv
  have hinside : extract quotedBlock = "x" := by cbv
  have hx : Json.Document.read "x" = ⟨.stop .noValue, false⟩ := by rfl
  have harray : Json.Document.read singleton =
      ⟨.array [.object [(.text "a", .bool true)]], false⟩ := by cbv
  have hobject : Json.Document.read (extract singleton) =
      ⟨.object [(.text "a", .bool true)], false⟩ := by cbv
  refine ⟨⟨Json.Document.parse_of_read hblock rfl, ?_⟩, Json.Document.parse_of_read harray rfl,
    parse_none_eq_ok_iff.mpr (Json.Document.parse_of_read hobject rfl)⟩
  rw [parse_none, hinside, Json.Document.parse_of_fault hx rfl]
  rfl

end Structured

end Blockflow
