import Blockflow.Toml.Moment
import Blockflow.Toml.Tree

/-!
# Settings documents

A document is a list of lines: headers that open tables, and entries that belong to the table
opened last.  Values are texts, numbers, truth values, dates, arrays and tables written within a
line.

* `readValue` — a value.
* `Statement`, `statements` — the lines.
* **`Document.read`** — the table that a document describes.
-/

namespace Blockflow.Toml

open Json (Draft)

/-! ## Values -/

/-- Whether a character may stand in a number, a date or a truth value. -/
def isScalarChar (c : Char) : Bool :=
  c.isAlphanum || c = '_' || c = '+' || c = '-' || c = '.' || c = ':'

/-- A value without parts that is no text. -/
def readScalar : Reader Draft := fun cs =>
  let token := cs.takeWhile isScalarChar
  match scalar? token with
  | some d => some (d, cs.drop token.length)
  | none => (Moment.read cs).map fun (canonical, rest) => (Moment.draft canonical, rest)

mutual

/-- A value, with room for `room` levels of nesting. -/
def readValue (fuel room : Nat) (cs : List Char) : Option (Draft × List Char) :=
  match fuel with
  | 0 => none
  | fuel + 1 =>
    match cs with
    | '"' :: _ | '\'' :: _ => (text cs).map fun (s, rest) => (.text s, rest)
    | '[' :: rest =>
      if room = 0 then none
      else (readItems fuel (room - 1) rest).map fun (items, rest) => (.array items, rest)
    | '\x7b' :: rest =>
      if room = 0 then none
      else
        match skipBlanks rest with
        | '\x7d' :: rest => some (.object [], rest)
        | rest => do
          let (entries, rest) ← readEntries fuel (room - 1) rest
          let members ← Node.putAll [] entries
          return (.object (Node.draftMembers members), rest)
    | cs => readScalar cs

/-- The items of an array up to its end; a comma may follow the last one. -/
def readItems (fuel room : Nat) (cs : List Char) : Option (List Draft × List Char) :=
  match fuel with
  | 0 => none
  | fuel + 1 => do
    match ← skipFiller false cs with
    | ']' :: rest => return ([], rest)
    | cs =>
      let (d, rest) ← readValue fuel room cs
      match ← skipFiller false rest with
      | ',' :: rest =>
        let (ds, rest) ← readItems fuel room rest
        return (d :: ds, rest)
      | ']' :: rest => return ([d], rest)
      | _ => none

/-- The entries of a table within a line up to its end. -/
def readEntries (fuel room : Nat) (cs : List Char) : Option (List Entry × List Char) :=
  match fuel with
  | 0 => none
  | fuel + 1 => do
    let (e, rest) ← readEntry fuel room cs
    match skipBlanks rest with
    | ',' :: rest =>
      let (es, rest) ← readEntries fuel room rest
      return (e :: es, rest)
    | '\x7d' :: rest => return ([e], rest)
    | _ => none

/-- A key, an equals sign and a value. -/
def readEntry (fuel room : Nat) (cs : List Char) : Option (Entry × List Char) :=
  match fuel with
  | 0 => none
  | fuel + 1 => do
    let ((path, key), rest) ← keyPath depthLimit cs
    match rest with
    | '=' :: rest =>
      let (value, rest) ← readValue fuel room (skipBlanks rest)
      return (⟨path, key, value⟩, rest)
    | _ => none

end

/-! ## Lines -/

/-- A line that says something. -/
inductive Statement where
  | entry (entry : Entry)
  | header (header : Header)
  deriving Repr

/-- A header, from behind its brackets. -/
def readHeader (isList : Bool) (cs : List Char) : Option (Statement × List Char) := do
  let ((path, name), rest) ← keyPath depthLimit cs
  match isList, rest with
  | false, ']' :: rest => return (.header ⟨path, name, false⟩, rest)
  | true, ']' :: ']' :: rest => return (.header ⟨path, name, true⟩, rest)
  | _, _ => none

/-- A header or an entry. -/
def readStatement (fuel : Nat) (cs : List Char) : Option (Statement × List Char) :=
  match cs with
  | '[' :: '[' :: rest => readHeader true rest
  | '[' :: rest => readHeader false rest
  | cs => (readEntry fuel depthLimit cs).map fun (e, rest) => (.entry e, rest)

/-- All lines that say something. -/
def statements (fuel : Nat) (cs : List Char) : Option (List Statement) :=
  match fuel with
  | 0 => none
  | fuel + 1 =>
    match skipComment (skipBlanks cs) with
    | [] => some []
    | c :: rest =>
      match newline? (c :: rest) with
      | some rest => statements fuel rest
      | none =>
        if (skipBlanks cs).head? = some '#' then none
        else do
          let (s, rest) ← readStatement fuel (c :: rest)
          let later ← statements fuel (← lineEnd? rest)
          return s :: later

/-- The entries before the first header, and every header with the entries behind it. -/
def sections : List Statement → List Entry × List (Header × List Entry)
  | [] => ([], [])
  | .entry e :: rest => ((e :: (sections rest).1), (sections rest).2)
  | .header h :: rest => ([], (h, (sections rest).1) :: (sections rest).2)

/-! ## Documents -/

/-- The text without a mark of the byte order. -/
def dropMark : List Char → List Char
  | '\uFEFF' :: cs => cs
  | cs => cs

/-- **The table that a document describes**, if it is well formed. -/
def Document.read (source : String) : Option Draft := do
  let cs := dropMark source.toList
  let (own, headed) := sections (← statements (2 * cs.length + 8) cs)
  let root ← Node.putAll [] own
  let root ← headed.foldlM (fun root h => Node.openTable root h.1 h.2) root
  return .object (Node.draftMembers root)

end Blockflow.Toml
