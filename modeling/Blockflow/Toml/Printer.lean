import Blockflow.Json.Printer

/-!
# Writing settings documents

A document is written with the entries of a table in their order, plain values first and tables
behind them, each under its header.  Arrays of several items have a line for each; texts are
written in the first of the four ways that needs no escapes.

* `Value` — what can be written, with `Value.ofJson`.
* `Text.quoted`, `keyText`, `floatText` — single tokens.
* `Value.inline` — a value within an entry.
* **`Value.document`** — the document of a table.
-/

namespace Blockflow.Toml

/-- A value to write.  Tables keep the order of their members. -/
inductive Value where
  | text (value : String)
  | int (value : Int)
  | float (value : Double)
  | bool (value : Bool)
  | array (items : List Value)
  | table (members : List (String × Value))
  deriving Repr, Inhabited

namespace Value

mutual

/-- The value of a JSON value; null has none. -/
def ofJson : Json → Option Value
  | .null => none
  | .bool b => some (.bool b)
  | .number (.int n) => some (.int n)
  | .number (.float x) => some (.float x)
  | .text s => some (.text s)
  | .array xs => (ofItems xs).map .array
  | .object ms => (ofMembers ms).map .table

/-- The values of items. -/
def ofItems : List Json → Option (List Value)
  | [] => some []
  | x :: xs => do return (← ofJson x) :: (← ofItems xs)

/-- The values of members. -/
def ofMembers : List (String × Json) → Option (List (String × Value))
  | [] => some []
  | (k, x) :: ms => do return (k, ← ofJson x) :: (← ofMembers ms)

end

end Value

/-! ## Tokens -/

/-- The length of the longest row of a character. -/
def longestRow (c : Char) (cs : List Char) : Nat :=
  (cs.foldl (fun (best, row) d => if d = c then (max best (row + 1), row + 1) else (best, 0))
    ((0, 0) : Nat × Nat)).1

/-- A control character that no text holds as itself. -/
def isControl (c : Char) : Bool := (c.toNat < 32 && c ≠ '\n' && c ≠ '\t') || c.toNat = 127

/-- The escape of a control character. -/
def controlEscape (c : Char) : List Char :=
  match c with
  | '\x08' => ['\\', 'b']
  | '\t' => ['\\', 't']
  | '\n' => ['\\', 'n']
  | '\x0c' => ['\\', 'f']
  | '\r' => ['\\', 'r']
  | c =>
    let ds := (Nat.toDigits 16 c.toNat).map Char.toUpper
    '\\' :: 'u' :: (List.replicate (4 - ds.length) '0' ++ ds)

/-- Escapes a text between double quotes.  In a block line breaks stay, and so do up to two quotes
in a row; `row` counts the quotes before. -/
def escaped (isBlock : Bool) (row : Nat) : List Char → List Char
  | [] => []
  | '"' :: cs =>
    if (if isBlock then 2 else 0) ≤ row then '\\' :: '"' :: escaped isBlock 0 cs
    else '"' :: escaped isBlock (row + 1) cs
  | '\\' :: cs => '\\' :: '\\' :: escaped isBlock 0 cs
  | c :: cs =>
    (if (c = '\n' && !isBlock) || c = '\t' || isControl c then controlEscape c else [c]) ++
      escaped isBlock 0 cs

/-- **A text in quotes**, in the first way that needs no escapes. -/
def textToken (s : String) : String :=
  let cs := s.toList
  let doubles := longestRow '"' cs
  let singles := longestRow '\'' cs
  let hasBreak := cs.contains '\n'
  let hasControl := cs.any isControl
  let isBasic := !hasControl && !cs.contains '\\'
  let opening := if hasBreak then ['\n'] else []
  String.ofList <|
    if isBasic && doubles = 0 && !hasBreak then '"' :: (escaped false 0 cs ++ ['"'])
    else if !hasControl && singles = 0 && !hasBreak then '\'' :: (cs ++ ['\''])
    else if isBasic && doubles ≤ 2 then
      ['"', '"', '"'] ++ opening ++ escaped true 0 cs ++ ['"', '"', '"']
    else if !hasControl && singles ≤ 2 then
      ['\'', '\'', '\''] ++ opening ++ cs ++ ['\'', '\'', '\'']
    else if hasBreak then ['"', '"', '"'] ++ opening ++ escaped true 0 cs ++ ['"', '"', '"']
    else '"' :: (escaped false 0 cs ++ ['"'])

/-- A key, in quotes only if it needs them. -/
def keyToken (key : String) : String :=
  let cs := key.toList
  let isBare := !cs.isEmpty && cs.all fun c => c.isAlphanum || c = '-' || c = '_'
  if isBare then key
  else if !cs.any isControl && !cs.contains '\\' && !cs.contains '"' && !cs.contains '\n' then
    String.ofList ('"' :: (escaped false 0 cs ++ ['"']))
  else if !cs.any isControl && !cs.contains '\'' && !cs.contains '\n' then
    String.ofList ('\'' :: (cs ++ ['\'']))
  else String.ofList ('"' :: (escaped false 0 cs ++ ['"']))

/-- A floating-point number, always in positional form. -/
def floatToken (x : Double) : String :=
  let sign := if x.negative then "-" else ""
  if x.isZero then sign ++ "0.0"
  else if x.isInfinite then sign ++ "inf"
  else if !x.isFinite then "nan"
  else
    let d := x.shortest
    let (ds, dropped) := Decimal.strip (Nat.toDigits 10 d.digits)
    sign ++ String.ofList (Decimal.positional ds (ds.length + d.exponent + dropped))

/-! ## Values and documents -/

namespace Value

/-- Whether a value is a table. -/
def isTable : Value → Bool
  | .table _ => true
  | _ => false

/-- Whether a value is written under headers: a table, or a list of tables. -/
def isHeaded : Value → Bool
  | .table _ => true
  | .array (x :: xs) => x.isTable && xs.all isTable
  | _ => false

mutual

/-- **A value within an entry.** -/
def inline : Value → String
  | .text s => textToken s
  | .int n => Json.intNumeral n
  | .float x => floatToken x
  | .bool true => "true"
  | .bool false => "false"
  | .array [] => "[]"
  | .array [x] => "[" ++ inline x ++ "]"
  | .array (x :: y :: rest) => "[" ++ inlineItems (x :: y :: rest) ++ "\n]"
  | .table [] => "\x7b\x7d"
  | .table (m :: ms) => "\x7b " ++ inlineMembers (m :: ms) ++ " \x7d"

/-- Items, one a line, each followed by a comma. -/
def inlineItems : List Value → String
  | [] => ""
  | x :: xs => "\n    " ++ inline x ++ "," ++ inlineItems xs

/-- Members, separated by commas. -/
def inlineMembers : List (String × Value) → String
  | [] => ""
  | [(k, x)] => keyToken k ++ " = " ++ inline x
  | (k, x) :: m :: ms => keyToken k ++ " = " ++ inline x ++ ", " ++ inlineMembers (m :: ms)

end

/-- The entries of a table that stand under its own header. -/
def entries (members : List (String × Value)) : String :=
  String.join <| (members.filter fun m => !m.2.isHeaded).map fun m =>
    keyToken m.1 ++ " = " ++ m.2.inline ++ "\n"

/-- The path of a header. -/
def pathText (path : List String) : String := String.intercalate "." (path.map keyToken)

mutual

/-- The parts of a document below a table: each with its header. -/
def sections (path : List String) : List (String × Value) → List String
  | [] => []
  | (k, .table ms) :: rest => tableSections (path ++ [k]) ms ++ sections path rest
  | (k, .array xs) :: rest =>
    (if (Value.array xs).isHeaded then listSections (path ++ [k]) xs else []) ++ sections path rest
  | _ :: rest => sections path rest

/-- The parts of a table: its own unless it holds nothing but tables, and those below. -/
def tableSections (path : List String) (members : List (String × Value)) : List String :=
  let own := entries members
  (if own.isEmpty && !members.isEmpty then [] else ["[" ++ pathText path ++ "]\n" ++ own]) ++
    sections path members

/-- The parts of a list of tables. -/
def listSections (path : List String) : List Value → List String
  | [] => []
  | .table ms :: rest =>
    ("[[" ++ pathText path ++ "]]\n" ++ entries ms) :: (sections path ms ++ listSections path rest)
  | _ :: rest => listSections path rest

end

/-- **The document of a table**: its parts, with an empty line between them. -/
def document (members : List (String × Value)) : String :=
  let own := entries members
  String.intercalate "\n" ((if own.isEmpty then [] else [own]) ++ sections [] members)

end Value

end Blockflow.Toml
