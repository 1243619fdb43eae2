import Blockflow.Proofs.Template.Filling

/-!
# Templates that stand for values

The arguments of a tool are given as a value in which every text is a template.  A placeholder that
stands alone, but for blanks around it, becomes the value at its path, whatever kind of value that
is; every other template becomes its filled-in text.  Both ways agree: as a text, the value is what
the placeholder is filled in with.

* `Json.InShape` — values that differ only in what stands in the place of texts.
* **`solePlaceholder?_eq_some_iff`** — which templates are one placeholder.
* `inShape_resolveValue` — nothing but the texts of a value is resolved.
* **`resolved_as_filled`** — what stands in the place of each text.
-/

namespace Blockflow

/-! ## Values in the shape of another -/

/-- **A value in the shape of another one**: the same leaves, items in the same places and members
under the same keys, but in the place of texts other values that belong there. -/
inductive Json.InShape (place : String → Json → Prop) : Json → Json → Prop
  | null : InShape place .null .null
  | bool (b : Bool) : InShape place (.bool b) (.bool b)
  | number (n : Json.Number) : InShape place (.number n) (.number n)
  | text {s : String} {v : Json} (h : place s v) : InShape place (.text s) v
  | array {xs ys : List Json} (h : List.Forall₂ (InShape place) xs ys) :
    InShape place (.array xs) (.array ys)
  | object {ms ns : List (String × Json)} (keys : ms.map Prod.fst = ns.map Prod.fst)
    (values : List.Forall₂ (InShape place) (ms.map Prod.snd) (ns.map Prod.snd)) :
    InShape place (.object ms) (.object ns)

/-- **A text is what is left of it without the blanks around it**, and these blanks. -/
lemma Text.exists_blanks_trimChars (cs : List Char) :
    ∃ lead trail : List Char, (∀ c ∈ lead, isBlank c = true) ∧ (∀ c ∈ trail, isBlank c = true) ∧
      cs = lead ++ (trimChars cs ++ trail) := by
  refine ⟨cs.takeWhile isBlank, ((dropBlanks cs).reverse.takeWhile isBlank).reverse,
    fun c hc => List.mem_takeWhile_imp hc,
    fun c hc => List.mem_takeWhile_imp (List.mem_reverse.mp hc), ?_⟩
  have hback : (dropBlanks cs).reverse.takeWhile isBlank ++ dropBlanks (dropBlanks cs).reverse =
      (dropBlanks cs).reverse := List.takeWhile_append_dropWhile
  have hfront : cs.takeWhile isBlank ++ dropBlanks cs = cs := List.takeWhile_append_dropWhile
  rw [trimChars, ← List.reverse_append, hback, List.reverse_reverse, hfront]

namespace Template

variable {template path : String} {inputs : Json.Object}

lemma keys_resolveMembers (ms : List (String × Json)) :
    ms.map Prod.fst = (resolveMembers inputs ms).map Prod.fst := by
  induction ms with
  | nil => rfl
  | cons m ms ih =>
      rw [resolveMembers, List.map_cons, List.map_cons, ih]

mutual

/-- **Nothing but texts is resolved**: everything else of a value stays as it is. -/
theorem inShape_resolveValue {place : String → Json → Prop} {inputs : Json.Object}
    (h : ∀ s, place s (resolve s inputs)) : (v : Json) → v.InShape place (resolveValue inputs v)
  | .null => .null
  | .bool b => .bool b
  | .number n => .number n
  | .text s => .text (h s)
  | .array xs => .array (inShape_resolveItems h xs)
  | .object ms => .object (keys_resolveMembers ms) (inShape_resolveMembers h ms)

lemma inShape_resolveItems {place : String → Json → Prop} {inputs : Json.Object}
    (h : ∀ s, place s (resolve s inputs)) :
    (xs : List Json) → List.Forall₂ (Json.InShape place) xs (resolveItems inputs xs)
  | [] => .nil
  | x :: xs => .cons (inShape_resolveValue h x) (inShape_resolveItems h xs)

lemma inShape_resolveMembers {place : String → Json → Prop} {inputs : Json.Object}
    (h : ∀ s, place s (resolve s inputs)) :
    (ms : List (String × Json)) → List.Forall₂ (Json.InShape place) (ms.map Prod.snd)
      ((resolveMembers inputs ms).map Prod.snd)
  | [] => .nil
  | (_, x) :: ms => .cons (inShape_resolveValue h x) (inShape_resolveMembers h ms)

end

/-! ## Templates that are one placeholder -/

/-- A spelled placeholder is read to its end. -/
lemma placeholder?_of_spelled {cs before inner after : List Char}
    (hspelled : Spelled before inner after) (h : cs = spelling before inner after) :
    placeholder? cs = some (inner, []) := by
  have hfound : placeholder? (spelling before inner after ++ []) = some (inner, []) :=
    placeholder?_spelling hspelled
  rwa [List.append_nil, ← h] at hfound

/-- **A template is one placeholder** if a placeholder is all there is between the blanks. -/
theorem solePlaceholder?_eq_some_iff :
    solePlaceholder? template = some path ↔
      ∃ before after, Spelled before path.toList after ∧
        Text.trimChars template.toList = spelling before path.toList after := by
  constructor
  · intro h
    unfold solePlaceholder? at h
    split at h
    · next found heq =>
        obtain rfl : String.ofList found = path := Option.some.inj h
        obtain ⟨before, after, hspelled, htrim⟩ := exists_spelling_of_placeholder? heq
        rw [String.toList_ofList]
        exact ⟨before, after, hspelled, by rw [htrim, List.append_nil]⟩
    · cases h
  · rintro ⟨before, after, hspelled, htrim⟩
    rw [solePlaceholder?, placeholder?_of_spelled hspelled htrim]
    exact congrArg some String.ofList_toList

/-- A placeholder between blanks is the only piece of what is left without them. -/
lemma pieces_trim (h : solePlaceholder? template = some path) :
    pieces (Text.trim template).toList = [.placeholder path] := by
  obtain ⟨before, after, hspelled, htrim⟩ := solePlaceholder?_eq_some_iff.mp h
  rw [Text.trim, String.toList_ofList,
    pieces_of_placeholder? (placeholder?_of_spelled hspelled htrim), pieces_nil,
    String.ofList_toList]

/-- **The pieces of a placeholder between blanks.** -/
lemma pieces_of_sole (h : solePlaceholder? template = some path) :
    ∃ lead trail : List Char, (∀ c ∈ lead ++ trail, Text.isBlank c = true) ∧
      pieces template.toList = lead.map .literal ++ .placeholder path :: trail.map .literal := by
  -- what is made of blanks has no placeholder in it
  have hblanks : ∀ cs : List Char, (∀ c ∈ cs, Text.isBlank c = true) →
      pieces cs = cs.map .literal := by
    refine fun cs hcs => pieces_of_no_placeholder fun a b before path after _ heq => ?_
    have hbrace : '\x7b' ∈ cs := by simp [heq, spelling]
    exact absurd (hcs _ hbrace) (by decide)
  obtain ⟨before, after, hspelled, htrim⟩ := solePlaceholder?_eq_some_iff.mp h
  obtain ⟨lead, trail, hlead, htrail, heq⟩ := Text.exists_blanks_trimChars template.toList
  refine ⟨lead, trail, fun c hc => (List.mem_append.mp hc).elim (hlead c) (htrail c), ?_⟩
  rw [heq, htrim, pieces_append hspelled, hblanks lead hlead, hblanks trail htrail,
    String.ofList_toList]

lemma resolve_of_sole (h : solePlaceholder? template = some path) :
    resolve template inputs = (lookup inputs path).getD (.text "") := by
  rw [resolve, h]

lemma resolve_of_not_sole (h : solePlaceholder? template = none) :
    resolve template inputs = .text (render template inputs) := by
  rw [resolve, h]

/-- A value as a text: a path without a value counts as the empty text. -/
lemma valueText_resolve_of_sole (h : solePlaceholder? template = some path) :
    valueText (resolve template inputs) = lookupText inputs path := by
  rw [resolve_of_sole h, lookupText]
  cases lookup inputs path <;> rfl

/-- Without the blanks around it, a placeholder is filled in with the text at its path. -/
lemma render_trim_of_sole (h : solePlaceholder? template = some path) :
    render (Text.trim template) inputs = lookupText inputs path := by
  refine String.toList_injective ?_
  rw [toList_render, pieces_trim h]
  simp [Piece.fill]

/-! ## The two ways agree -/

/-- **What a template is resolved to is what it is filled in with.**  For all inputs and every value
whose texts are templates, the resolved value has the shape of that value, and in the place of each
text stands what the text resolves to:

* for one placeholder, with or without blanks around it, the value at its path or an empty text,
  which as a text is the placeholder filled in, and with the blanks around it the text filled in;
* for every other text, the text filled in. -/
theorem resolved_as_filled (inputs : Json.Object) (mapping : Json) :
    mapping.InShape (fun s v => v = resolve s inputs ∧
        (∀ before path after : String, Spelled before.toList path.toList after.toList →
          Text.trim s = "\x7b\x7b" ++ before ++ path ++ after ++ "\x7d\x7d" →
          v = (lookup inputs path).getD (.text "") ∧
            valueText v = render (Text.trim s) inputs ∧
            ∃ lead trail : String, (∀ c ∈ (lead ++ trail).toList, Text.isBlank c = true) ∧
              render s inputs = lead ++ valueText v ++ trail) ∧
        ((∀ before path after : String, Spelled before.toList path.toList after.toList →
          Text.trim s ≠ "\x7b\x7b" ++ before ++ path ++ after ++ "\x7d\x7d") →
          v = .text (render s inputs)))
      (resolveValue inputs mapping) := by
  refine inShape_resolveValue (fun s => ⟨rfl, ?_, ?_⟩) mapping
  · intro before path after hspelled htrim
    have hchars : Text.trimChars s.toList =
        spelling before.toList path.toList after.toList := by
      rw [← toList_spelling, ← htrim, Text.trim, String.toList_ofList]
    have hsole := solePlaceholder?_eq_some_iff.mpr ⟨_, _, hspelled, hchars⟩
    have hshown : valueText (resolve s inputs) = lookupText inputs path :=
      valueText_resolve_of_sole hsole
    obtain ⟨lead, trail, hblank, hpieces⟩ := pieces_of_sole hsole
    refine ⟨resolve_of_sole hsole, hshown.trans (render_trim_of_sole hsole).symm,
      String.ofList lead, String.ofList trail, by simpa using hblank, String.toList_injective ?_⟩
    rw [toList_render, hpieces, hshown]
    simp [Piece.fill, List.flatMap_map]
  · intro hnone
    cases hsole : solePlaceholder? s with
    | none => exact resolve_of_not_sole hsole
    | some path =>
        obtain ⟨before, after, hspelled, htrim⟩ := solePlaceholder?_eq_some_iff.mp hsole
        refine absurd ?_ (hnone (String.ofList before) path (String.ofList after)
          (by simpa using hspelled))
        refine String.toList_injective ?_
        rw [toList_spelling, Text.trim, String.toList_ofList, htrim]
        simp only [String.toList_ofList]

/-- A placeholder between blanks, inside an array: the number that it names takes its place. -/
theorem resolved_as_filled_array :
    let inputs : Json.Object := [("a", .nat 3)]
    Spelled [] ['a'] [] ∧
      resolveValue inputs (.array [.bool true, .text " \x7b\x7ba\x7d\x7d "]) =
        .array [.bool true, .nat 3] ∧
      valueText (.nat 3) = render "\x7b\x7ba\x7d\x7d" inputs := by
  intro inputs
  have hspelled : Spelled [] ['a'] [] :=
    ⟨by decide, List.forall_mem_singleton.mpr (by decide), List.forall_mem_nil _,
      List.forall_mem_nil _⟩
  have hshape := resolved_as_filled inputs (.array [.bool true, .text " \x7b\x7ba\x7d\x7d "])
  generalize resolveValue inputs (.array [.bool true, .text " \x7b\x7ba\x7d\x7d "]) = v at hshape ⊢
  cases hshape with
  | array hitems =>
      cases hitems with
      | cons hbool hrest =>
          cases hrest with
          | cons htext hend =>
              cases hbool
              cases hend
              cases htext with
              | text hplace =>
                  obtain ⟨hvalue, hshown, -⟩ := hplace.2.1 "" "a" "" hspelled (by decide)
                  cases hvalue
                  exact ⟨hspelled, rfl, hshown⟩

end Template

end Blockflow
