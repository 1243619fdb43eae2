import Blockflow.Proofs.Table
import Blockflow.Proofs.Template.Resolving
import Mathlib.Algebra.GroupWithZero.Nat
import Mathlib.Algebra.Order.BigOperators.Group.List

/-!
# What templates show of hidden values

What is stored under a reserved key is hidden: no path leads to it.  But a path may lead to a value
that holds such a key further inside, and then the value is shown as a whole, with all that is
hidden in it.

To see what a template shows, what is hidden is exchanged for something else.  With `false` in its
place the text of a value is longer than with `null`, by one character for each hidden value.  So a
template is filled in alike, whatever is hidden, exactly if it names no value that hides something.

* `Json.hidden` — how many values are hidden in a value.
* `Json.veil`, `Json.SameOpenly` — other values in their place, and values that differ in nothing
  else.
* **`lookup_veil`** — a path leads to the same place, whatever is hidden.
* `length_compact_veil`, `length_render_veil` — texts with something else in the place of what is
  hidden.
* **`hidden_unshown_iff`** — which templates show nothing that is hidden.
-/

namespace Blockflow

/-! ## Hidden values -/

namespace Json

mutual

/-- How many values are hidden in a value: those under reserved keys, at any depth. -/
def hidden : Json → Nat
  | .array xs => hiddenItems xs
  | .object ms => hiddenMembers ms
  | _ => 0

/-- How many values are hidden in items. -/
def hiddenItems : List Json → Nat
  | [] => 0
  | x :: xs => hidden x + hiddenItems xs

/-- How many values are hidden in members; what is hidden as a whole counts as one. -/
def hiddenMembers : List (String × Json) → Nat
  | [] => 0
  | (k, x) :: ms => (if isReserved k then 1 else hidden x) + hiddenMembers ms

end

mutual

/-- A value with another one in the place of everything that is hidden in it. -/
def veil (w : Json) : Json → Json
  | .array xs => .array (veilItems w xs)
  | .object ms => .object (veilMembers w ms)
  | v => v

/-- Items with another value in the place of everything that is hidden in them. -/
def veilItems (w : Json) : List Json → List Json
  | [] => []
  | x :: xs => veil w x :: veilItems w xs

/-- Members with another value in the place of everything that is hidden in them. -/
def veilMembers (w : Json) : List (String × Json) → List (String × Json)
  | [] => []
  | (k, x) :: ms => (k, if isReserved k then w else veil w x) :: veilMembers w ms

end

/-- **Values that differ only in what is stored under reserved keys**, at any depth. -/
def SameOpenly (v v' : Json) : Prop := veil .null v = veil .null v'

variable {v v' w : Json} {key : String}

lemma veilItems_eq_map (w : Json) (xs : List Json) : veilItems w xs = xs.map (veil w) := by
  induction xs with
  | nil => rfl
  | cons x xs ih => rw [veilItems, ih, List.map_cons]

/-- Under other keys there is what was there, with another value in the place of what is hidden. -/
lemma get?_veilMembers (hkey : isReserved key = false) (ms : List (String × Json)) :
    Table.get? (veilMembers w ms) key = (Table.get? ms key).map (veil w) := by
  induction ms with
  | nil => rfl
  | cons m ms ih =>
      obtain ⟨k, x⟩ := m
      rw [veilMembers, Table.get?, Table.get?]
      split_ifs with hk hreserved
      · rw [hk, hkey] at hreserved
        cases hreserved
      · rfl
      · exact ih

mutual

/-- What was put in the place of hidden values is hidden again. -/
lemma veil_veil (w w' : Json) : (v : Json) → veil w (veil w' v) = veil w v
  | .null | .bool _ | .number _ | .text _ => rfl
  | .array xs => congrArg Json.array (veilItems_veilItems w w' xs)
  | .object ms => congrArg Json.object (veilMembers_veilMembers w w' ms)

lemma veilItems_veilItems (w w' : Json) :
    (xs : List Json) → veilItems w (veilItems w' xs) = veilItems w xs
  | [] => rfl
  | x :: xs => by
      rw [veilItems, veilItems, veilItems, veil_veil w w' x, veilItems_veilItems w w' xs]

lemma veilMembers_veilMembers (w w' : Json) :
    (ms : List (String × Json)) → veilMembers w (veilMembers w' ms) = veilMembers w ms
  | [] => rfl
  | (k, x) :: ms => by
      rw [veilMembers, veilMembers, veilMembers, veilMembers_veilMembers w w' ms]
      split_ifs
      · rfl
      · rw [veil_veil w w' x]

end

mutual

/-- A value that hides nothing stays as it is. -/
lemma veil_of_hidden (w : Json) : (v : Json) → v.hidden = 0 → veil w v = v
  | .null, _ | .bool _, _ | .number _, _ | .text _, _ => rfl
  | .array xs, h => congrArg Json.array (veilItems_of_hidden w xs h)
  | .object ms, h => congrArg Json.object (veilMembers_of_hidden w ms h)

lemma veilItems_of_hidden (w : Json) :
    (xs : List Json) → hiddenItems xs = 0 → veilItems w xs = xs
  | [], _ => rfl
  | x :: xs, h => by
      obtain ⟨hx, hxs⟩ := Nat.add_eq_zero_iff.mp h
      rw [veilItems, veil_of_hidden w x hx, veilItems_of_hidden w xs hxs]

lemma veilMembers_of_hidden (w : Json) :
    (ms : List (String × Json)) → hiddenMembers ms = 0 → veilMembers w ms = ms
  | [], _ => rfl
  | (k, x) :: ms, h => by
      obtain ⟨hx, hms⟩ := Nat.add_eq_zero_iff.mp h
      split_ifs at hx with hk
      rw [veilMembers, if_neg hk, veil_of_hidden w x hx, veilMembers_of_hidden w ms hms]

end

mutual

lemma hidden_veil (w : Json) : (v : Json) → (veil w v).hidden = v.hidden
  | .null | .bool _ | .number _ | .text _ => rfl
  | .array xs => hiddenItems_veilItems w xs
  | .object ms => hiddenMembers_veilMembers w ms

lemma hiddenItems_veilItems (w : Json) :
    (xs : List Json) → hiddenItems (veilItems w xs) = hiddenItems xs
  | [] => rfl
  | x :: xs => by
      rw [veilItems, hiddenItems, hiddenItems, hidden_veil w x, hiddenItems_veilItems w xs]

lemma hiddenMembers_veilMembers (w : Json) :
    (ms : List (String × Json)) → hiddenMembers (veilMembers w ms) = hiddenMembers ms
  | [] => rfl
  | (k, x) :: ms => by
      rw [veilMembers, hiddenMembers, hiddenMembers, hiddenMembers_veilMembers w ms]
      split_ifs
      · rfl
      · rw [hidden_veil w x]

end

lemma sameOpenly_veil (w v : Json) : SameOpenly v (veil w v) := (veil_veil .null w v).symm

/-- A value that hides nothing differs from no other one in what is hidden. -/
lemma SameOpenly.eq_of_hidden (h : SameOpenly v v') (hv : v.hidden = 0) : v' = v := by
  have hv' : v'.hidden = 0 := by
    rw [← hidden_veil .null v', ← h, hidden_veil, hv]
  have hsame := h
  rw [SameOpenly, veil_of_hidden _ v hv, veil_of_hidden _ v' hv'] at hsame
  exact hsame.symm

mutual

/-- **The text of a value is longer** by one character for each hidden value, with `false` in its
place instead of `null`. -/
theorem length_compact_veil : (v : Json) →
    (veil (.bool false) v).compact.length = (veil .null v).compact.length + v.hidden
  | .null | .bool _ | .number _ | .text _ => (Nat.add_zero _).symm
  | .array xs => by
      have hitems := length_compactItems_veilItems xs
      simp only [veil, compact, hidden, String.length_append, hitems]
      omega
  | .object ms => by
      have hmembers := length_compactMembers_veilMembers ms
      simp only [veil, compact, hidden, String.length_append, hmembers]
      omega

lemma length_compactItems_veilItems : (xs : List Json) →
    (compactItems (veilItems (.bool false) xs)).length =
      (compactItems (veilItems .null xs)).length + hiddenItems xs
  | [] => rfl
  | [x] => by
      simpa only [veilItems, compactItems, hiddenItems, Nat.add_zero] using length_compact_veil x
  | x :: y :: rest => by
      have hx := length_compact_veil x
      have hrest := length_compactItems_veilItems (y :: rest)
      simp only [veilItems, compactItems, hiddenItems, String.length_append] at hrest ⊢
      omega

lemma length_compact_member (k : String) (x : Json) :
    (if isReserved k then (.bool false) else veil (.bool false) x : Json).compact.length =
      (if isReserved k then .null else veil .null x : Json).compact.length +
        if isReserved k then 1 else x.hidden := by
  split_ifs
  · rfl
  · exact length_compact_veil x

lemma length_compactMembers_veilMembers : (ms : List (String × Json)) →
    (compactMembers (veilMembers (.bool false) ms)).length =
      (compactMembers (veilMembers .null ms)).length + hiddenMembers ms
  | [] => rfl
  | [(k, x)] => by
      have hx := length_compact_member k x
      simp only [veilMembers, compactMembers, hiddenMembers, String.length_append]
      omega
  | (k, x) :: (l, y) :: rest => by
      have hx := length_compact_member k x
      have hrest := length_compactMembers_veilMembers ((l, y) :: rest)
      simp only [veilMembers, compactMembers, hiddenMembers, String.length_append] at hrest ⊢
      omega

end

mutual

/-- The texts inside a value. -/
def texts : Json → List String
  | .text s => [s]
  | .array xs => textsOfItems xs
  | .object ms => textsOfMembers ms
  | _ => []

/-- The texts inside items. -/
def textsOfItems : List Json → List String
  | [] => []
  | x :: xs => texts x ++ textsOfItems xs

/-- The texts inside the members' values. -/
def textsOfMembers : List (String × Json) → List String
  | [] => []
  | (_, x) :: ms => texts x ++ textsOfMembers ms

end

end Json

namespace Template

variable {template path : String} {inputs inputs' : Json.Object} {w : Json}

/-! ## Paths -/

lemma segments_ne_nil (cs : List Char) : segments cs ≠ [] := by
  cases cs with
  | nil => simp [segments]
  | cons c cs =>
      rw [segments]
      split_ifs
      · simp
      · split <;> simp

/-- A reserved key is no index. -/
lemma index?_of_isReserved {s : String} (h : isReserved s = true) : index? s = none := by
  unfold isReserved at h
  split at h
  · next hs => simp [index?, hs]
  · cases h

/-- **A reserved key leads nowhere.** -/
lemma step_of_isReserved {s : String} (h : isReserved s = true) (v : Json) : step v s = none := by
  cases v with
  | object ms => simp [step, h]
  | array xs => simp [step, index?_of_isReserved h]
  | null | bool | number | text => rfl

/-- A step leads to the same place, whatever is hidden. -/
lemma step_veil (w v : Json) (s : String) :
    step (Json.veil w v) s = (step v s).map (Json.veil w) := by
  cases hs : isReserved s with
  | true => rw [step_of_isReserved hs, step_of_isReserved hs, Option.map_none]
  | false =>
      cases v with
      | object ms => simpa [Json.veil, step, hs] using Json.get?_veilMembers hs ms
      | array xs =>
          simp only [Json.veil, step, Json.veilItems_eq_map, List.getElem?_map]
          cases index? s <;> rfl
      | null | bool | number | text => rfl

lemma foldlM_step_veil (w : Json) (keys : List String) :
    ∀ v, keys.foldlM step (Json.veil w v) = (keys.foldlM step v).map (Json.veil w) := by
  induction keys with
  | nil => exact fun v => rfl
  | cons s keys ih =>
      intro v
      rw [List.foldlM_cons, List.foldlM_cons, step_veil]
      cases step v s with
      | none => rfl
      | some x => exact ih x

/-- **A path leads to the same place, whatever is hidden.** -/
theorem lookup_veil (w : Json) (inputs : Json.Object) (path : String) :
    lookup (Json.veilMembers w inputs) path = (lookup inputs path).map (Json.veil w) :=
  foldlM_step_veil w _ (.object inputs)

/-- What a path finds among other inputs differs at most in what is hidden. -/
lemma lookup_sameOpenly (h : Json.SameOpenly (.object inputs) (.object inputs'))
    (path : String) :
    Option.Rel Json.SameOpenly (lookup inputs path) (lookup inputs' path) := by
  have hveil : (lookup inputs path).map (Json.veil .null) =
      (lookup inputs' path).map (Json.veil .null) := by
    rw [← lookup_veil, ← lookup_veil, Json.object.inj h]
  cases hv : lookup inputs path with
  | none =>
      rw [hv, Option.map_none, eq_comm, Option.map_eq_none_iff] at hveil
      rw [hveil]
      exact .none
  | some v =>
      rw [hv, Option.map_some, eq_comm, Option.map_eq_some_iff] at hveil
      obtain ⟨v', hv', hsame⟩ := hveil
      rw [hv']
      exact .some hsame.symm

/-- **No path with a reserved key leads anywhere.** -/
lemma lookup_of_isReserved {s : List Char} (hs : s ∈ segments path.toList)
    (hreserved : isReserved (String.ofList s) = true) : lookup inputs path = none := by
  have hnone : ∀ (keys : List String) v, String.ofList s ∈ keys → keys.foldlM step v = none := by
    intro keys
    induction keys with
    | nil => exact fun v hmem => absurd hmem List.not_mem_nil
    | cons key keys ih =>
        intro v hmem
        rw [List.foldlM_cons]
        rcases List.mem_cons.mp hmem with rfl | hmem
        · rw [step_of_isReserved hreserved]
          rfl
        · cases step v key with
          | none => rfl
          | some x => exact ih x hmem
  exact hnone _ _ (List.mem_map_of_mem hs)

/-- What is hidden at the top might as well not be there. -/
lemma lookup_stripReserved (inputs : Json.Object) (path : String) :
    lookup (stripReserved inputs) path = lookup inputs path := by
  have hstep : ∀ s, step (.object (stripReserved inputs)) s = step (.object inputs) s := by
    intro s
    cases hs : isReserved s with
    | true => rw [step_of_isReserved hs, step_of_isReserved hs]
    | false =>
        have hget := Table.get?_filter (fun k => !isReserved k) inputs s
        simpa [step, hs, stripReserved] using hget
  rw [lookup, lookup]
  cases hsegments : segments path.toList with
  | nil => exact absurd hsegments (segments_ne_nil _)
  | cons s rest => rw [List.map_cons, List.foldlM_cons, List.foldlM_cons, hstep]

/-! ## Texts with something else in the place of what is hidden -/

/-- **A path that leads to nothing, or to a value that hides nothing.** -/
def Bare (inputs : Json.Object) (path : String) : Prop :=
  ∀ v ∈ lookup inputs path, v.hidden = 0

/-- **What is hidden in the inputs makes no difference.** -/
def Conceals {α : Type} (inputs : Json.Object) (f : Json.Object → α) : Prop :=
  ∀ inputs', Json.SameOpenly (.object inputs) (.object inputs') → f inputs' = f inputs

/-- A path is named by a placeholder of a template. -/
def Names (template path : String) : Prop := Piece.placeholder path ∈ pieces template.toList

/-- How many hidden values a piece shows. -/
def Piece.shown (inputs : Json.Object) : Piece → Nat
  | .literal _ => 0
  | .placeholder path => ((lookup inputs path).map Json.hidden).getD 0

lemma lookup_of_bare (h : Bare inputs path)
    (hsame : Json.SameOpenly (.object inputs) (.object inputs')) :
    lookup inputs' path = lookup inputs path := by
  have hrel := lookup_sameOpenly hsame path
  rw [Bare] at h
  generalize lookup inputs path = found, lookup inputs' path = found' at h hrel
  cases hrel with
  | none => rfl
  | some hv => rw [hv.eq_of_hidden (h _ rfl)]

lemma shown_eq_zero_iff : (Piece.placeholder path).shown inputs = 0 ↔ Bare inputs path := by
  rw [Piece.shown, Bare]
  cases lookup inputs path <;> simp

lemma length_valueText_veil (v : Json) :
    (valueText (Json.veil (.bool false) v)).length =
      (valueText (Json.veil .null v)).length + v.hidden := by
  cases v with
  | array xs => exact Json.length_compact_veil (.array xs)
  | object ms => exact Json.length_compact_veil (.object ms)
  | null | bool | number | text => exact (Nat.add_zero _).symm

lemma length_lookupText_veil (inputs : Json.Object) (path : String) :
    (lookupText (Json.veilMembers (.bool false) inputs) path).length =
      (lookupText (Json.veilMembers .null inputs) path).length +
        (Piece.placeholder path).shown inputs := by
  rw [lookupText, lookupText, lookup_veil, lookup_veil, Piece.shown]
  cases lookup inputs path with
  | none => rfl
  | some v => exact length_valueText_veil v

/-- **A template filled in is longer** by one character for each hidden value that it shows. -/
theorem length_render_veil (template : String) (inputs : Json.Object) :
    (render template (Json.veilMembers (.bool false) inputs)).length =
      (render template (Json.veilMembers .null inputs)).length +
        ((pieces template.toList).map (Piece.shown inputs)).sum := by
  rw [← String.length_toList, ← String.length_toList, toList_render, toList_render]
  induction pieces template.toList with
  | nil => rfl
  | cons piece rest ih =>
      have hpiece : (piece.fill (Json.veilMembers (.bool false) inputs)).length =
          (piece.fill (Json.veilMembers .null inputs)).length + piece.shown inputs := by
        cases piece with
        | literal c => rfl
        | placeholder path =>
            simpa only [Piece.fill, String.length_toList] using length_lookupText_veil inputs path
      simp only [List.flatMap_cons, List.length_append, List.map_cons, List.sum_cons, hpiece, ih]
      omega

/-! ## What makes no difference -/

/-- Where hidden values make no difference, it is the same whatever is put in their place. -/
lemma Conceals.veil {α : Type} {f : Json.Object → α} (h : Conceals inputs f) (w : Json) :
    f (Json.veilMembers w inputs) = f inputs :=
  h _ (Json.sameOpenly_veil w (.object inputs))

lemma conceals_lookupText_iff : Conceals inputs (lookupText · path) ↔ Bare inputs path := by
  constructor
  · intro h
    have hlength := length_lookupText_veil inputs path
    rw [h.veil, h.veil] at hlength
    exact shown_eq_zero_iff.mp (by omega)
  · intro h inputs' hsame
    simp only [lookupText, lookup_of_bare h hsame]

/-- **A template that names nothing that hides something** is filled in alike. -/
theorem conceals_render_iff :
    Conceals inputs (render template) ↔ ∀ path, Names template path → Bare inputs path := by
  constructor
  · intro h path hpath
    have hlength := length_render_veil template inputs
    rw [h.veil, h.veil] at hlength
    have hsum : ((pieces template.toList).map (Piece.shown inputs)).sum = 0 := by omega
    exact shown_eq_zero_iff.mp
      (List.sum_eq_zero_iff.mp hsum _ (List.mem_map_of_mem hpath))
  · intro h inputs' hsame
    refine String.toList_injective ?_
    rw [toList_render, toList_render]
    refine List.flatMap_congr fun piece hpiece => ?_
    cases piece with
    | literal c => rfl
    | placeholder path => rw [Piece.fill, Piece.fill, lookupText, lookupText,
        lookup_of_bare (h path hpiece) hsame]

/-- As a text, what a template resolves to is a template with the same paths, filled in. -/
lemma exists_render_of_resolve (template : String) :
    ∃ filled, (∀ path, Names filled path ↔ Names template path) ∧
      ∀ inputs, valueText (resolve template inputs) = render filled inputs := by
  cases hsole : solePlaceholder? template with
  | none =>
      exact ⟨template, fun path => Iff.rfl, fun inputs => by
        rw [resolve_of_not_sole hsole, valueText]⟩
  | some path =>
      obtain ⟨lead, trail, -, hpieces⟩ := pieces_of_sole hsole
      refine ⟨Text.trim template, fun path' => ?_, fun inputs => ?_⟩
      · rw [Names, Names, hpieces, pieces_trim hsole]
        simp
      · rw [valueText_resolve_of_sole hsole, render_trim_of_sole hsole]

/-- A template that names nothing that hides something is resolved alike, too. -/
theorem conceals_resolve_iff :
    Conceals inputs (resolve template) ↔ ∀ path, Names template path → Bare inputs path := by
  constructor
  · intro h
    obtain ⟨filled, hnames, htext⟩ := exists_render_of_resolve template
    have hfilled : Conceals inputs (render filled) := fun inputs' hsame => by
      rw [← htext, ← htext, h inputs' hsame]
    exact fun path hpath => conceals_render_iff.mp hfilled path ((hnames path).mpr hpath)
  · intro h inputs' hsame
    cases hsole : solePlaceholder? template with
    | none =>
        rw [resolve_of_not_sole hsole, resolve_of_not_sole hsole,
          conceals_render_iff.mpr h inputs' hsame]
    | some path =>
        obtain ⟨lead, trail, -, hpieces⟩ := pieces_of_sole hsole
        have hpath : Names template path := by
          rw [Names, hpieces]
          simp
        rw [resolve_of_sole hsole, resolve_of_sole hsole, lookup_of_bare (h path hpath) hsame]

mutual

/-- A value is resolved alike if its texts are. -/
lemma resolveValue_eq_iff : (v : Json) →
    (resolveValue inputs' v = resolveValue inputs v ↔
      ∀ s ∈ v.texts, resolve s inputs' = resolve s inputs)
  | .null | .bool _ | .number _ => by simp [resolveValue, Json.texts]
  | .text s => by simp [resolveValue, Json.texts]
  | .array xs => by simp [resolveValue, Json.texts, resolveItems_eq_iff xs]
  | .object ms => by simp [resolveValue, Json.texts, resolveMembers_eq_iff ms]

lemma resolveItems_eq_iff : (xs : List Json) →
    (resolveItems inputs' xs = resolveItems inputs xs ↔
      ∀ s ∈ Json.textsOfItems xs, resolve s inputs' = resolve s inputs)
  | [] => by simp [resolveItems, Json.textsOfItems]
  | x :: xs => by
      simp [resolveItems, Json.textsOfItems, resolveValue_eq_iff x, resolveItems_eq_iff xs, or_imp,
        forall_and]

lemma resolveMembers_eq_iff : (ms : List (String × Json)) →
    (resolveMembers inputs' ms = resolveMembers inputs ms ↔
      ∀ s ∈ Json.textsOfMembers ms, resolve s inputs' = resolve s inputs)
  | [] => by simp [resolveMembers, Json.textsOfMembers]
  | (_, x) :: ms => by
      simp [resolveMembers, Json.textsOfMembers, resolveValue_eq_iff x, resolveMembers_eq_iff ms,
        or_imp, forall_and]

end

lemma conceals_resolveValue_iff {mapping : Json} :
    Conceals inputs (resolveValue · mapping) ↔
      ∀ s ∈ mapping.texts, ∀ path, Names s path → Bare inputs path := by
  constructor
  · intro h s hs
    refine conceals_resolve_iff.mp fun inputs' hsame => ?_
    exact (resolveValue_eq_iff mapping).mp (h inputs' hsame) s hs
  · intro h inputs' hsame
    refine (resolveValue_eq_iff mapping).mpr fun s hs => ?_
    exact conceals_resolve_iff.mpr (h s hs) inputs' hsame

/-- **Which templates show nothing that is hidden.**  For all inputs:

* What is stored under a reserved key at the top makes no difference to any path, and a path with a
  reserved key in it leads nowhere.
* Where inputs differ only in what is hidden, every path leads to the same place in both, and to
  values that differ only in what is hidden.
* The text at a path, a template filled in or resolved, and a resolved value are the same, whatever
  is hidden in the inputs, exactly if each path in it leads to nothing or to a value that hides
  nothing.  A path to an object with a reserved key in it shows what is hidden there. -/
theorem hidden_unshown_iff (inputs : Json.Object) :
    (∀ path, lookup (stripReserved inputs) path = lookup inputs path) ∧
    (∀ path, ∀ s ∈ segments path.toList, isReserved (String.ofList s) = true →
      lookup inputs path = none) ∧
    (∀ inputs', Json.SameOpenly (.object inputs) (.object inputs') → ∀ path,
      Option.Rel Json.SameOpenly (lookup inputs path) (lookup inputs' path)) ∧
    (∀ path, Conceals inputs (lookupText · path) ↔ Bare inputs path) ∧
    (∀ template, Conceals inputs (render template) ↔
      ∀ path, Names template path → Bare inputs path) ∧
    (∀ template, Conceals inputs (resolve template) ↔
      ∀ path, Names template path → Bare inputs path) ∧
    ∀ mapping, Conceals inputs (resolveValue · mapping) ↔
      ∀ s ∈ mapping.texts, ∀ path, Names s path → Bare inputs path :=
  ⟨lookup_stripReserved inputs, fun _ _ hs => lookup_of_isReserved hs,
    fun _ => lookup_sameOpenly, fun _ => conceals_lookupText_iff, fun _ => conceals_render_iff,
    fun _ => conceals_resolve_iff, fun _ => conceals_resolveValue_iff⟩

/-- A hidden value beside another one: naming the one beside it shows nothing hidden, and naming
the object that holds both does. -/
theorem hidden_unshown_iff_nested :
    let inputs : Json.Object :=
      [("nested", .object [("__secret", .text "x"), ("name", .text "n")])]
    Conceals inputs (render "\x7b\x7bnested.name\x7d\x7d") ∧
      ¬ Conceals inputs (render "\x7b\x7bnested\x7d\x7d") := by
  intro inputs
  obtain ⟨-, -, -, -, hrender, -, -⟩ := hidden_unshown_iff inputs
  have hname : pieces "\x7b\x7bnested.name\x7d\x7d".toList = [.placeholder "nested.name"] := by
    decide +kernel
  have hnested : pieces "\x7b\x7bnested\x7d\x7d".toList = [.placeholder "nested"] := by
    decide +kernel
  constructor
  · refine (hrender _).mpr fun path hpath => ?_
    rw [Names, hname, List.mem_singleton] at hpath
    cases hpath
    intro v hv
    cases hv
    rfl
  · intro h
    refine absurd ((hrender _).mp h "nested" ?_ _ rfl) (by decide)
    rw [Names, hnested]
    exact List.mem_singleton_self _

/-- **What is hidden inside an object is shown with it**: these inputs differ only in a hidden
value, and a template is filled in differently. -/
theorem hidden_shown_inside :
    let inputs : Json.Object := [("nested", .object [("__secret", .text "x")])]
    let inputs' : Json.Object := [("nested", .object [("__secret", .text "y")])]
    Json.SameOpenly (.object inputs) (.object inputs') ∧
      render "\x7b\x7bnested\x7d\x7d" inputs = "\x7b\"__secret\":\"x\"\x7d" ∧
      render "\x7b\x7bnested\x7d\x7d" inputs' ≠ render "\x7b\x7bnested\x7d\x7d" inputs :=
  ⟨rfl, by decide +kernel, by decide +kernel⟩

end Template

end Blockflow
