import Blockflow.Text.Blank
import Blockflow.Workflow.Basic

/-!
# Templates

Prompts and tool arguments refer to a block's inputs by placeholders: a dotted path in double
braces.  A path's numeric segments index into arrays, and a segment with a reserved key finds
nothing, so that what a run hides cannot be named.

* `Template.lookup` — the value at a path.
* `Template.placeholder?` — a placeholder at the front of a text.
* `Template.pieces` — a text as literal characters and placeholders, read once from left to
  right.
* **`Template.render`** — the text with its placeholders filled in.
* **`Template.resolve`**, `Template.resolveValue` — a value of the text: a placeholder that stands
  alone keeps the type of what it names.
-/

namespace Blockflow.Template

/-! ## Paths -/

/-- A decimal number below `2 ^ 64`, a plus sign allowed in front. -/
def index? (segment : String) : Option Nat :=
  let digits := match segment.toList with
    | '+' :: rest => rest
    | cs => cs
  if digits.isEmpty || !digits.all Char.isDigit then none
  else
    let n := digits.foldl (fun n c => n * 10 + (c.toNat - '0'.toNat)) 0
    if n ≤ Json.maxInteger then some n else none

/-- One step into a value. -/
def step (v : Json) (segment : String) : Option Json :=
  match v with
  | .object ms => if isReserved segment then none else Table.get? ms segment
  | .array xs => (index? segment).bind fun i => xs[i]?
  | _ => none

/-- The characters split at every dot. -/
def segments : List Char → List (List Char)
  | [] => [[]]
  | c :: cs =>
    if c = '.' then [] :: segments cs
    else
      match segments cs with
      | [] => [[c]]
      | s :: rest => (c :: s) :: rest

/-- **The value at a dotted path**, starting from the inputs. -/
def lookup (inputs : Json.Object) (path : String) : Option Json :=
  ((segments path.toList).map String.ofList).foldlM step (.object inputs)

/-- The text of a value as it appears in a prompt: nothing for null, a text as it is, and
anything else as JSON. -/
def valueText : Json → String
  | .null => ""
  | .text s => s
  | v => v.compact

/-- The text at a path, nothing if there is no value. -/
def lookupText (inputs : Json.Object) (path : String) : String :=
  ((lookup inputs path).map valueText).getD ""

/-! ## Placeholders -/

/-- Whether a character may stand in a placeholder's path. -/
def isPathChar (c : Char) : Bool := c != '\x7b' && c != '\x7d' && !Text.isBlank c

/-- The path of a placeholder at the front of a text, and the text behind it: two opening braces,
the path, two closing braces, with blanks allowed inside. -/
def placeholder? (cs : List Char) : Option (List Char × List Char) :=
  match cs with
  | '\x7b' :: '\x7b' :: inner =>
    let inner := Text.dropBlanks inner
    let path := inner.takeWhile isPathChar
    match path, Text.dropBlanks (inner.dropWhile isPathChar) with
    | [], _ => none
    | path, '\x7d' :: '\x7d' :: rest => some (path, rest)
    | _, _ => none
  | _ => none

/-- Dropping characters leaves no more than there were. -/
theorem length_dropWhile_le (p : Char → Bool) (cs : List Char) :
    (cs.dropWhile p).length ≤ cs.length :=
  (List.dropWhile_sublist p).length_le

/-- The text behind a placeholder is shorter. -/
theorem length_of_placeholder? {cs path rest : List Char}
    (h : placeholder? cs = some (path, rest)) : rest.length < cs.length := by
  unfold placeholder? at h
  split at h
  · rename_i inner
    simp only at h
    split at h
    · simp at h
    · rename_i heq _
      simp only [Option.some.injEq, Prod.mk.injEq] at h
      obtain ⟨_, rfl⟩ := h
      have h₁ := length_dropWhile_le Text.isBlank
        (List.dropWhile isPathChar (Text.dropBlanks inner))
      have h₂ := length_dropWhile_le isPathChar (Text.dropBlanks inner)
      have h₃ := length_dropWhile_le Text.isBlank inner
      simp only [Text.dropBlanks] at *
      rw [heq] at h₁
      simp only [List.length_cons] at *
      omega
    · simp at h
  · simp at h

/-- A piece of a template. -/
inductive Piece where
  | literal (c : Char)
  | placeholder (path : String)
  deriving DecidableEq, Repr

/-- A template's pieces, from left to right; what a placeholder stands for is not looked at
again. -/
def pieces (cs : List Char) : List Piece :=
  match h : placeholder? cs with
  | some (path, rest) =>
    have := length_of_placeholder? h
    .placeholder (String.ofList path) :: pieces rest
  | none =>
    match cs with
    | [] => []
    | c :: rest => .literal c :: pieces rest
termination_by cs.length

/-- The characters a piece stands for. -/
def Piece.fill (inputs : Json.Object) : Piece → List Char
  | .literal c => [c]
  | .placeholder path => (lookupText inputs path).toList

/-- **The template with its placeholders filled in.** -/
def render (template : String) (inputs : Json.Object) : String :=
  String.ofList ((pieces template.toList).flatMap (Piece.fill inputs))

/-- The path of a template that is one placeholder, but for blanks around it. -/
def solePlaceholder? (template : String) : Option String :=
  match placeholder? (Text.trimChars template.toList) with
  | some (path, []) => some (String.ofList path)
  | _ => none

/-- **The value of a template**: what a sole placeholder names, or the filled-in text.  A path
without a value counts as the empty text. -/
def resolve (template : String) (inputs : Json.Object) : Json :=
  match solePlaceholder? template with
  | some path => (lookup inputs path).getD (.text "")
  | none => .text (render template inputs)

mutual

/-- Every text inside a value resolved. -/
def resolveValue (inputs : Json.Object) : Json → Json
  | .text s => resolve s inputs
  | .array xs => .array (resolveItems inputs xs)
  | .object ms => .object (resolveMembers inputs ms)
  | v => v

/-- Every text inside the items resolved. -/
def resolveItems (inputs : Json.Object) : List Json → List Json
  | [] => []
  | x :: xs => resolveValue inputs x :: resolveItems inputs xs

/-- Every text inside the members' values resolved. -/
def resolveMembers (inputs : Json.Object) : List (String × Json) → List (String × Json)
  | [] => []
  | (k, x) :: ms => (k, resolveValue inputs x) :: resolveMembers inputs ms

end

end Blockflow.Template
