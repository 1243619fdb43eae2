import Blockflow.Json.Draft

/-!
# Tokens of settings documents

Settings are written as TOML.  A token is read from the front of a text, and the reader hands back
what stands behind it; a text that does not start with the token yields nothing.

* `Reader` — readers.
* `skipBlanks`, `skipFiller`, `lineEnd?` — what stands between tokens.
* `basicText`, `literalText`, `basicBlock`, `literalBlock` — the four ways to write a text.
* `keyPath` — a key, in parts joined by points.
* `scalar?` — numbers and truth values.
-/

namespace Blockflow.Toml

open Json (Draft)

/-- A reader: what it read, and the text behind it. -/
abbrev Reader (α : Type) := List Char → Option (α × List Char)

/-! ## Between tokens -/

/-- Blanks within a line. -/
def isBlank (c : Char) : Bool := c = ' ' || c = '\t'

/-- The text behind leading blanks. -/
def skipBlanks (cs : List Char) : List Char := cs.dropWhile isBlank

/-- Whether a character may stand in a comment or in a text as itself. -/
def isPlain (c : Char) : Bool := c = '\t' || (32 ≤ c.toNat && c.toNat ≠ 127)

/-- The text behind a line break. -/
def newline? : List Char → Option (List Char)
  | '\n' :: rest => some rest
  | '\r' :: '\n' :: rest => some rest
  | _ => none

/-- The text behind an optional comment. -/
def skipComment : List Char → List Char
  | '#' :: rest => rest.dropWhile isPlain
  | cs => cs

/-- The text behind the end of a line on which nothing but a comment is left. -/
def lineEnd? (cs : List Char) : Option (List Char) :=
  match skipComment (skipBlanks cs) with
  | [] => some []
  | rest => newline? rest

/-- The text behind blanks, line breaks and whole comments; a comment is ended by a line
break. -/
def skipFiller (inComment : Bool) : List Char → Option (List Char)
  | '\n' :: rest => skipFiller false rest
  | '\r' :: '\n' :: rest => skipFiller false rest
  | [] => if inComment then none else some []
  | c :: rest =>
    if inComment then (if isPlain c then skipFiller true rest else none)
    else if c = '#' then skipFiller true rest
    else if isBlank c then skipFiller false rest
    else some (c :: rest)

/-! ## Texts -/

/-- The character of a one-letter escape. -/
def escape? : Char → Option Char
  | 'b' => some '\x08'
  | 't' => some '\t'
  | 'n' => some '\n'
  | 'f' => some '\x0c'
  | 'r' => some '\r'
  | '"' => some '"'
  | '\\' => some '\\'
  | _ => none

/-- The number of a row of hexadecimal digits. -/
def hexNumber? (cs : List Char) : Option Nat :=
  cs.foldl (fun n c => do return (← n) * 16 + (← Json.hex? c)) (some 0)

/-- The character of a row of hexadecimal digits. -/
def hexChar? (cs : List Char) : Option Char := do
  let n ← hexNumber? cs
  if n < 0xD800 || (0xDFFF < n && n ≤ 0x10FFFF) then some (Char.ofNat n) else none

/-- Puts a character in front of what a reader reads. -/
def consText (c : Char) (r : Option (List Char × List Char)) : Option (List Char × List Char) :=
  r.map fun (s, rest) => (c :: s, rest)

/-- A text in double quotes, from behind its first one. -/
def basicText : Reader (List Char)
  | '"' :: rest => some ([], rest)
  | '\\' :: 'u' :: a :: b :: c :: d :: rest => do
    consText (← hexChar? [a, b, c, d]) (basicText rest)
  | '\\' :: 'U' :: a :: b :: c :: d :: e :: f :: g :: h :: rest => do
    consText (← hexChar? [a, b, c, d, e, f, g, h]) (basicText rest)
  | '\\' :: e :: rest => do consText (← escape? e) (basicText rest)
  | c :: rest => if isPlain c then consText c (basicText rest) else none
  | [] => none

/-- A text in single quotes, from behind its first one. -/
def literalText : Reader (List Char)
  | '\'' :: rest => some ([], rest)
  | c :: rest => if isPlain c then consText c (literalText rest) else none
  | [] => none

/-- The end of a block of text, from behind three quotes: up to two more belong to the block. -/
def blockEnd (quote : Char) (rest : List Char) : List Char × List Char :=
  let more := min 2 (rest.takeWhile (· = quote)).length
  (rest.take more, rest.drop more)

/-- A block in triple double quotes, from behind them.  A line break behind a backslash takes all
blanks and line breaks that follow with it; `joining` tells that they are being taken. -/
def basicBlock (joining : Bool) : Reader (List Char)
  | '"' :: '"' :: '"' :: rest => some (blockEnd '"' rest)
  | '\r' :: '\n' :: rest =>
    if joining then basicBlock true rest else consText '\n' (basicBlock false rest)
  | '\n' :: rest => if joining then basicBlock true rest else consText '\n' (basicBlock false rest)
  | '\\' :: 'u' :: a :: b :: c :: d :: rest => do
    consText (← hexChar? [a, b, c, d]) (basicBlock false rest)
  | '\\' :: 'U' :: a :: b :: c :: d :: e :: f :: g :: h :: rest => do
    consText (← hexChar? [a, b, c, d, e, f, g, h]) (basicBlock false rest)
  | '\\' :: e :: rest =>
    if (newline? (skipBlanks (e :: rest))).isSome then basicBlock true (e :: rest)
    else do consText (← escape? e) (basicBlock false rest)
  | c :: rest =>
    if joining && isBlank c then basicBlock true rest
    else if isPlain c then consText c (basicBlock false rest)
    else none
  | [] => none

/-- A block in triple single quotes, from behind them. -/
def literalBlock : Reader (List Char)
  | '\'' :: '\'' :: '\'' :: rest => some (blockEnd '\'' rest)
  | '\r' :: '\n' :: rest => consText '\n' (literalBlock rest)
  | c :: rest => if c = '\n' || isPlain c then consText c (literalBlock rest) else none
  | [] => none

/-- The text behind a line break that opens a block. -/
def skipOpening (cs : List Char) : List Char := (newline? cs).getD cs

/-- A text of any kind. -/
def text : Reader String := fun cs =>
  let made := match cs with
    | '"' :: '"' :: '"' :: rest => basicBlock false (skipOpening rest)
    | '\'' :: '\'' :: '\'' :: rest => literalBlock (skipOpening rest)
    | '"' :: rest => basicText rest
    | '\'' :: rest => literalText rest
    | _ => none
  made.map fun (s, rest) => (String.ofList s, rest)

/-! ## Keys -/

/-- Whether a character may stand in a key without quotes. -/
def isKeyChar (c : Char) : Bool := c.isAlphanum || c = '-' || c = '_'

/-- A part of a key. -/
def keyPart : Reader String := fun cs =>
  match cs with
  | '"' :: rest => (basicText rest).map fun (s, rest) => (String.ofList s, rest)
  | '\'' :: rest => (literalText rest).map fun (s, rest) => (String.ofList s, rest)
  | cs =>
    let word := cs.takeWhile isKeyChar
    if word.isEmpty then none else some (String.ofList word, cs.drop word.length)

/-- How many levels tables, arrays and the parts of a key may nest. -/
def depthLimit : Nat := 79

/-- A key: the parts before the last one, and the last one.  Blanks may stand around each part. -/
def keyPath : (room : Nat) → Reader (List String × String)
  | 0, _ => none
  | room + 1, cs => do
    let (part, rest) ← keyPart (skipBlanks cs)
    match skipBlanks rest with
    | '.' :: rest =>
      let ((path, last), rest) ← keyPath room rest
      return ((part :: path, last), rest)
    | rest => return (([], part), rest)

/-! ## Numbers and truth values -/

/-- Digits without their underscores, each of which has to stand between digits. -/
def digits? (isDigit : Char → Bool) (cs : List Char) : Option (List Char) :=
  let groups := cs.splitOn '_'
  if groups.all fun g => !g.isEmpty && g.all isDigit then some groups.flatten else none

/-- The number of digits to a base. -/
def inBase? (base : Nat) (cs : List Char) : Option Nat := do
  let digit (c : Char) : Option Nat := (Json.hex? c).filter (· < base)
  let ds ← digits? (fun c => (digit c).isSome) cs
  return ds.foldl (fun n c => n * base + (digit c).getD 0) 0

/-- A decimal number without needless leading zeros. -/
def decimal? (cs : List Char) : Option (List Char) := do
  let ds ← digits? Char.isDigit cs
  if 1 < cs.length && cs.head? = some '0' then none else some ds

/-- The value of decimal digits. -/
def natOf (ds : List Char) : Nat := ds.foldl (fun n c => n * 10 + (c.toNat - '0'.toNat)) 0

/-- The sign of a number, and the rest. -/
def sign : List Char → Bool × List Char
  | '-' :: rest => (true, rest)
  | '+' :: rest => (false, rest)
  | cs => (false, cs)

/-- An integer of sixty-four bits. -/
def int? (cs : List Char) : Option Int := do
  let n : Int ← match cs with
    | '0' :: 'x' :: ds => (inBase? 16 ds).map Int.ofNat
    | '0' :: 'o' :: ds => (inBase? 8 ds).map Int.ofNat
    | '0' :: 'b' :: ds => (inBase? 2 ds).map Int.ofNat
    | cs =>
      let (negative, ds) := sign cs
      let n : Int ← (decimal? ds).map fun ds => Int.ofNat (natOf ds)
      some (if negative then -n else n)
  if -9223372036854775808 ≤ n ∧ n ≤ 9223372036854775807 then some n else none

/-- The double nearest to `n · 10 ^ e`, where `n` has the given number of digits. -/
def scaled (negative : Bool) (n size : Nat) (e : Int) : Double :=
  if n = 0 then ⟨negative, 0⟩
  else if 400 < e + size then ⟨negative, FloatFormat.double.infinity⟩
  else if e + size < -400 then ⟨negative, 0⟩
  else
    match e with
    | .ofNat k => .ofRatio negative (n * Nat.pow 10 k) 1
    | .negSucc k => .ofRatio negative n (Nat.pow 10 (k + 1))

/-- What stands before the first character of a kind, and what stands behind it, if there is
one. -/
def cutAt (isCut : Char → Bool) (cs : List Char) : List Char × Option (List Char) :=
  (cs.takeWhile fun c => !isCut c, (cs.dropWhile fun c => !isCut c).tail?)

/-- A floating-point number: with decimals or an exponent, infinite or undefined.  One beyond the
greatest number is refused. -/
def float? (cs : List Char) : Option Double := do
  let (negative, cs) := sign cs
  match String.ofList cs with
  | "inf" => return ⟨negative, FloatFormat.double.infinity⟩
  | "nan" => return ⟨negative, FloatFormat.double.infinity + 1⟩
  | _ =>
    let (mantissa, exponent) := cutAt (fun c => c = 'e' || c = 'E') cs
    let (whole, places) := cutAt (· = '.') mantissa
    if exponent.isNone && places.isNone then none
    let ds ← decimal? whole
    let ps ← (places.map (digits? Char.isDigit)).getD (some [])
    let e : Int ← match exponent with
      | none => some 0
      | some cs =>
        let (down, cs) := sign cs
        (digits? Char.isDigit cs).map fun ds =>
          if down then -(natOf ds : Int) else (natOf ds : Int)
    let all := ds ++ ps
    let x := scaled negative (natOf all) all.length (e - ps.length)
    if x.isInfinite && !x.negative then none else some x

/-- A number or a truth value. -/
def scalar? (cs : List Char) : Option Draft :=
  match String.ofList cs with
  | "true" => some (.bool true)
  | "false" => some (.bool false)
  | _ => ((int? cs).map fun n => .number (.int n)).or ((float? cs).map fun x => .number (.float x))

end Blockflow.Toml
