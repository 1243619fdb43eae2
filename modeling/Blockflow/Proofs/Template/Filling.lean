import Blockflow.Template
import Mathlib.Data.List.Basic
import Mathlib.Data.List.TakeWhile

/-!
# Templates that are filled in

A placeholder is two opening braces, a path and two closing ones, and has no brace in between.  So
one that begins in front of another cannot reach into it: its text would have a third opening brace.
Whatever stands around a placeholder, stray braces too, the texts on both sides are filled in as if
they stood alone, and the value comes between them as it is.

* `Template.Spelled`, `Template.spelling` — how a placeholder is written.
* `placeholder?_spelling`, `exists_spelling_of_placeholder?` — what is found at the front of a text.
* `prefix_of_spelling_append` — no placeholder reaches into another one.
* `pieces_append` — the pieces around a placeholder.
* **`render_placeholder`** — a template with a placeholder in it, and one without.
-/

namespace Blockflow.Template

variable {a b cs before path after before' path' after' rest : List Char} {c : Char}

/-! ## How placeholders are written -/

/-- **What a placeholder is made of**: a path without braces and blanks, and blanks around it. -/
structure Spelled (before path after : List Char) : Prop where
  nonempty : path ≠ []
  ofPath : ∀ c ∈ path, c ≠ '\x7b' ∧ c ≠ '\x7d' ∧ Text.isBlank c = false
  ofBefore : ∀ c ∈ before, Text.isBlank c = true
  ofAfter : ∀ c ∈ after, Text.isBlank c = true

/-- A path in double braces, with something around it. -/
def spelling (before path after : List Char) : List Char :=
  '\x7b' :: '\x7b' :: (before ++ (path ++ (after ++ ['\x7d', '\x7d'])))

lemma isPathChar_iff : isPathChar c = true ↔ c ≠ '\x7b' ∧ c ≠ '\x7d' ∧ Text.isBlank c = false := by
  simp [isPathChar, and_assoc]

/-- Nothing is dropped in front of what is not blank. -/
lemma dropBlanks_cons (hc : Text.isBlank c = false) : Text.dropBlanks (c :: cs) = c :: cs :=
  List.dropWhile_cons_of_neg (by simp [hc])

lemma dropBlanks_append (hcs : ∀ c ∈ cs, Text.isBlank c = true) :
    Text.dropBlanks (cs ++ rest) = Text.dropBlanks rest :=
  List.dropWhile_append_of_pos hcs

/-- A placeholder has no opening brace behind the first two. -/
lemma Spelled.exists_inner (h : Spelled before path after) :
    ∃ inner, spelling before path after = '\x7b' :: '\x7b' :: inner ∧ '\x7b' ∉ inner := by
  have hblank : ∀ cs : List Char, (∀ c ∈ cs, Text.isBlank c = true) → '\x7b' ∉ cs :=
    fun cs hcs hmem => absurd (hcs _ hmem) (by decide)
  refine ⟨_, rfl, ?_⟩
  simp only [List.mem_append, not_or]
  exact ⟨hblank _ h.ofBefore, fun hmem => (h.ofPath _ hmem).1 rfl, hblank _ h.ofAfter, by decide⟩

/-! ## Placeholders at the front of a text -/

/-- A path ends where blanks or the closing braces begin. -/
lemma takeWhile_closing (hafter : ∀ c ∈ after, Text.isBlank c = true) :
    (after ++ '\x7d' :: '\x7d' :: rest).takeWhile isPathChar = [] := by
  cases after with
  | nil => exact List.takeWhile_cons_of_neg (by decide)
  | cons c after =>
      exact List.takeWhile_cons_of_neg (by simp [isPathChar, hafter c List.mem_cons_self])

/-- **A placeholder is found**, whatever follows it. -/
lemma placeholder?_spelling (h : Spelled before path after) :
    placeholder? (spelling before path after ++ rest) = some (path, rest) := by
  have hpath : ∀ c ∈ path, isPathChar c = true := fun c hc => isPathChar_iff.mpr (h.ofPath c hc)
  obtain ⟨d, ds, hds⟩ := List.exists_cons_of_ne_nil h.nonempty
  have hclosing : (after ++ '\x7d' :: '\x7d' :: rest).takeWhile isPathChar = [] :=
    takeWhile_closing h.ofAfter
  have hdrop := List.takeWhile_append_dropWhile (p := isPathChar)
    (l := after ++ '\x7d' :: '\x7d' :: rest)
  have hinner : Text.dropBlanks (before ++ (path ++ (after ++ '\x7d' :: '\x7d' :: rest))) =
      path ++ (after ++ '\x7d' :: '\x7d' :: rest) := by
    rw [dropBlanks_append h.ofBefore, hds, List.cons_append]
    exact dropBlanks_cons (h.ofPath d (hds ▸ List.mem_cons_self)).2.2
  have hclose : Text.dropBlanks (after ++ '\x7d' :: '\x7d' :: rest) = '\x7d' :: '\x7d' :: rest := by
    rw [dropBlanks_append h.ofAfter, dropBlanks_cons (by decide)]
  rw [hclosing, List.nil_append] at hdrop
  simp only [spelling, List.cons_append, List.append_assoc, List.nil_append, placeholder?, hinner,
    List.takeWhile_append_of_pos hpath, List.dropWhile_append_of_pos hpath, hclosing, hdrop,
    hclose, List.append_nil]
  rw [hds]
  rfl

/-- **What is found is a placeholder.** -/
lemma exists_spelling_of_placeholder? (h : placeholder? cs = some (path, rest)) :
    ∃ before after, Spelled before path after ∧ cs = spelling before path after ++ rest := by
  unfold placeholder? at h
  split at h
  · rename_i inner
    dsimp only at h
    generalize hmiddle : Text.dropBlanks inner = middle at h
    split at h
    · cases h
    · rename_i hclose hne
      cases h
      refine ⟨inner.takeWhile Text.isBlank, (middle.dropWhile isPathChar).takeWhile Text.isBlank,
        ⟨fun hnil => hne hnil, fun c hc => isPathChar_iff.mp (List.mem_takeWhile_imp hc),
          fun c hc => List.mem_takeWhile_imp hc, fun c hc => List.mem_takeWhile_imp hc⟩, ?_⟩
      have hclosing := List.takeWhile_append_dropWhile (p := Text.isBlank)
        (l := middle.dropWhile isPathChar)
      have hback := List.takeWhile_append_dropWhile (p := isPathChar) (l := middle)
      have hfront := List.takeWhile_append_dropWhile (p := Text.isBlank) (l := inner)
      rw [Text.dropBlanks] at hclose hmiddle
      rw [hclose] at hclosing
      rw [← hclosing] at hback
      rw [hmiddle, ← hback] at hfront
      simp only [spelling, List.cons_append, List.append_assoc, List.nil_append, hfront]
    · cases h
  · cases h

/-! ## Placeholders beside each other -/

/-- **No placeholder reaches into another one**: one that begins in front of it ends there. -/
lemma prefix_of_spelling_append (h : Spelled before path after)
    (heq : c :: a ++ (spelling before' path' after' ++ b) = spelling before path after ++ rest) :
    spelling before path after <+: c :: a := by
  rcases List.append_eq_append_iff.mp heq with ⟨common, hcommon, hrest⟩ | ⟨left, hleft, -⟩
  · -- what it has of the other one would begin with an opening brace: the third of its own, unless
    -- the other one begins with its second
    obtain ⟨inner, hinner, hnone⟩ := h.exists_inner
    rw [hinner] at hcommon ⊢
    cases common with
    | nil => exact ⟨[], by simpa using hcommon⟩
    | cons d common =>
        obtain ⟨rfl, hbehind⟩ := List.cons.inj hrest
        cases a with
        | nil =>
            obtain ⟨rfl, rfl⟩ : '\x7b' = c ∧ inner = common := by simpa using hcommon
            cases inner with
            | nil =>
                have hlength := congrArg List.length hinner
                simp [spelling] at hlength
            | cons e inner =>
                obtain ⟨rfl, -⟩ := List.cons.inj hbehind
                exact absurd List.mem_cons_self hnone
        | cons e a =>
            obtain ⟨rfl, rfl, rfl⟩ : '\x7b' = c ∧ '\x7b' = e ∧ inner = a ++ '\x7b' :: common := by
              simpa using hcommon
            exact absurd (by simp) hnone
  · exact ⟨left, hleft.symm⟩

/-- Nothing is found at the front of a text because a placeholder follows it. -/
lemma placeholder?_append_spelling (hnone : placeholder? (c :: a) = none) :
    placeholder? (c :: (a ++ (spelling before path after ++ b))) = none := by
  by_contra hsome
  obtain ⟨⟨path', rest⟩, hfound⟩ := Option.ne_none_iff_exists'.mp hsome
  obtain ⟨before', after', h', heq⟩ := exists_spelling_of_placeholder? hfound
  obtain ⟨back, hback⟩ := prefix_of_spelling_append h' heq
  rw [← hback, placeholder?_spelling h'] at hnone
  cases hnone

/-! ## Pieces -/

lemma pieces_of_placeholder? (h : placeholder? cs = some (path, rest)) :
    pieces cs = .placeholder (String.ofList path) :: pieces rest := by
  rw [pieces]
  split
  · next heq =>
      rw [h] at heq
      cases heq
      rfl
  · next heq => rw [h] at heq; cases heq

lemma pieces_cons (h : placeholder? (c :: cs) = none) :
    pieces (c :: cs) = .literal c :: pieces cs := by
  rw [pieces]
  split
  · next heq => rw [h] at heq; cases heq
  · rfl

lemma pieces_nil : pieces [] = [] := by
  rw [pieces]
  rfl

/-- **A placeholder between two texts** is a piece by itself, and does not change what the pieces of
the texts are. -/
theorem pieces_append (h : Spelled before path after) (a b : List Char) :
    pieces (a ++ (spelling before path after ++ b)) =
      pieces a ++ .placeholder (String.ofList path) :: pieces b := by
  induction hlength : a.length using Nat.strong_induction_on generalizing a with
  | _ n ih =>
      cases hfound : placeholder? a with
      | some found =>
          obtain ⟨path', rest⟩ := found
          have hshorter : rest.length < n := hlength ▸ length_of_placeholder? hfound
          obtain ⟨before', after', h', rfl⟩ := exists_spelling_of_placeholder? hfound
          rw [pieces_of_placeholder? hfound, List.append_assoc,
            pieces_of_placeholder? (placeholder?_spelling h'), ih _ hshorter rest rfl,
            List.cons_append]
      | none =>
          cases a with
          | nil => rw [pieces_nil, List.nil_append, List.nil_append,
              pieces_of_placeholder? (placeholder?_spelling h)]
          | cons c a =>
              have hbehind := ih a.length (by simp [← hlength]) a rfl
              rw [pieces_cons hfound, List.cons_append,
                pieces_cons (placeholder?_append_spelling hfound), hbehind, List.cons_append]

/-- The pieces of a text without placeholders are its characters. -/
lemma pieces_of_no_placeholder
    (h : ∀ a b before path after, Spelled before path after →
      cs ≠ a ++ (spelling before path after ++ b)) : pieces cs = cs.map .literal := by
  induction cs with
  | nil => exact pieces_nil
  | cons c cs ih =>
      have hnone : placeholder? (c :: cs) = none := by
        by_contra hsome
        obtain ⟨⟨path, rest⟩, hfound⟩ := Option.ne_none_iff_exists'.mp hsome
        obtain ⟨before, after, hspelled, heq⟩ := exists_spelling_of_placeholder? hfound
        exact h [] rest before path after hspelled heq
      rw [pieces_cons hnone, List.map_cons, ih]
      intro a b before path after hspelled heq
      exact h (c :: a) b before path after hspelled (by rw [heq, List.cons_append])

/-! ## Filling in -/

lemma toList_spelling (before path after : String) :
    ("\x7b\x7b" ++ before ++ path ++ after ++ "\x7d\x7d").toList =
      spelling before.toList path.toList after.toList := by
  simp [spelling]

lemma toList_render (template : String) (inputs : Json.Object) :
    (render template inputs).toList = (pieces template.toList).flatMap (Piece.fill inputs) :=
  String.toList_ofList

/-- **A template is filled in around its placeholders.**  For all inputs:

* A placeholder between any two texts, whatever braces these have, becomes the text of the value at
  its path, or nothing if there is no value, and the two texts are filled in as if each stood alone.
* A template in which no placeholder stands is left as it is.
* What stands in the place of a placeholder is not looked at again: a text among the inputs is
  copied as it is, even if there are placeholders in it. -/
theorem render_placeholder (inputs : Json.Object) :
    (∀ a b before path after : String, Spelled before.toList path.toList after.toList →
      render (a ++ ("\x7b\x7b" ++ before ++ path ++ after ++ "\x7d\x7d") ++ b) inputs =
        render a inputs ++ ((lookup inputs path).map valueText).getD "" ++ render b inputs) ∧
    (∀ template : String,
      (∀ a b before path after : String, Spelled before.toList path.toList after.toList →
        template ≠ a ++ ("\x7b\x7b" ++ before ++ path ++ after ++ "\x7d\x7d") ++ b) →
      render template inputs = template) ∧
    ∀ a b before path after s : String, Spelled before.toList path.toList after.toList →
      lookup inputs path = some (.text s) →
        render (a ++ ("\x7b\x7b" ++ before ++ path ++ after ++ "\x7d\x7d") ++ b) inputs =
          render a inputs ++ s ++ render b inputs := by
  have hfilled : ∀ a b before path after : String,
      Spelled before.toList path.toList after.toList →
        render (a ++ ("\x7b\x7b" ++ before ++ path ++ after ++ "\x7d\x7d") ++ b) inputs =
          render a inputs ++ ((lookup inputs path).map valueText).getD "" ++ render b inputs := by
    intro a b before path after h
    refine String.toList_injective ?_
    have hpieces := pieces_append h a.toList b.toList
    rw [String.ofList_toList] at hpieces
    simp only [toList_render, String.toList_append, ← toList_spelling, List.append_assoc]
      at hpieces ⊢
    rw [hpieces]
    simp [Piece.fill, lookupText]
  refine ⟨hfilled, fun template hnone => String.toList_injective ?_, ?_⟩
  · rw [toList_render, pieces_of_no_placeholder, List.flatMap_map]
    · simp [Piece.fill]
    · intro a b before path after h heq
      refine hnone (String.ofList a) (String.ofList b) (String.ofList before) (String.ofList path)
        (String.ofList after) (by simpa using h) (String.toList_injective ?_)
      rw [heq, String.toList_append, String.toList_append, toList_spelling]
      simp only [String.toList_ofList, List.append_assoc]
  · intro a b before path after s h hs
    rw [hfilled a b before path after h, hs]
    rfl

/-- A placeholder between stray braces, for an input in which there is a placeholder: it is copied,
and so are the braces. -/
theorem render_placeholder_braces :
    let inputs : Json.Object := [("a", .text "\x7b\x7ba\x7d\x7d")]
    Spelled [' '] ['a'] [] ∧
      render ("\x7b" ++ ("\x7b\x7b" ++ " " ++ "a" ++ "" ++ "\x7d\x7d") ++ "\x7d") inputs =
        "\x7b" ++ "\x7b\x7ba\x7d\x7d" ++ "\x7d" := by
  intro inputs
  obtain ⟨-, hunchanged, hcopied⟩ := render_placeholder inputs
  have hspelled : Spelled [' '] ['a'] [] :=
    ⟨by decide, List.forall_mem_singleton.mpr (by decide), List.forall_mem_singleton.mpr (by decide),
      List.forall_mem_nil _⟩
  -- a stray brace is no placeholder, which has braces of both kinds
  have hbraces : ∀ a b before path after : String,
      '\x7b' ∈ (a ++ ("\x7b\x7b" ++ before ++ path ++ after ++ "\x7d\x7d") ++ b).toList ∧
        '\x7d' ∈ (a ++ ("\x7b\x7b" ++ before ++ path ++ after ++ "\x7d\x7d") ++ b).toList := by
    simp
  have hopening : render "\x7b" inputs = "\x7b" := by
    refine hunchanged _ fun a b before path after _ heq => ?_
    have hmem := (hbraces a b before path after).2
    rw [← heq] at hmem
    exact absurd hmem (by decide)
  have hclosing : render "\x7d" inputs = "\x7d" := by
    refine hunchanged _ fun a b before path after _ heq => ?_
    have hmem := (hbraces a b before path after).1
    rw [← heq] at hmem
    exact absurd hmem (by decide)
  have hrender := hcopied "\x7b" "\x7d" " " "a" "" "\x7b\x7ba\x7d\x7d" hspelled rfl
  rw [hopening, hclosing] at hrender
  exact ⟨hspelled, hrender⟩

end Blockflow.Template
