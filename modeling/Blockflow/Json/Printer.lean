import Blockflow.Json.Value

/-!
# Writing JSON text

Two layouts: compact, and indented by two blanks.  Text is escaped as little as the format
allows: the quote, the backslash and the characters below U+0020.

* `Json.numeral` — integers in decimal; floating-point numbers with the fewest digits that read
  back, positional from `1e-5` up to `1e16` and in scientific form outside.
* `Json.quote` — a quoted text.
* **`Json.compact`** — the whole value without blanks.
* **`Json.pretty`** — one item or member a line.
-/

namespace Blockflow

/-! ## Numerals -/

/-- Digits without the zeros at their end, and how many were dropped. -/
def Decimal.strip (digits : List Char) : List Char × Nat :=
  let kept := (digits.reverse.dropWhile (· = '0')).reverse
  (kept, digits.length - kept.length)

/-- The positional text of a decimal with its digits `ds`, of which `point` stand before the point;
it has at least one decimal. -/
def Decimal.positional (ds : List Char) (point : Int) : List Char :=
  match point with
  | .ofNat k =>
    if k = 0 then '0' :: '.' :: ds
    else if ds.length ≤ k then ds ++ List.replicate (k - ds.length) '0' ++ ['.', '0']
    else ds.take k ++ '.' :: ds.drop k
  | .negSucc k => '0' :: '.' :: (List.replicate (k + 1) '0' ++ ds)

/-- The text of a decimal with its digits `ds`, the last of weight `10 ^ e`: positional, with at
least one decimal, when the leading digit weighs `10 ^ -5` to `10 ^ 15`; scientific otherwise,
with a sign on a positive exponent too. -/
def Decimal.layout (ds : List Char) (e : Int) : List Char :=
  let point : Int := ds.length + e
  if -5 < point && point ≤ 16 then positional ds point
  else
    let scale := point - 1
    let lead := match ds with
      | [] => []
      | [d] => [d]
      | d :: rest => d :: '.' :: rest
    let sign := if scale < 0 then '-' else '+'
    lead ++ 'e' :: sign :: Nat.toDigits 10 scale.natAbs

namespace Json

/-- The numeral of a finite floating-point number of either width. -/
def floatNumeral {F : FloatFormat} (x : Binary F) : String :=
  let body :=
    if x.isZero then ['0', '.', '0']
    else
      let d := x.shortest
      let (ds, dropped) := Decimal.strip (Nat.toDigits 10 d.digits)
      Decimal.layout ds (d.exponent + dropped)
  String.ofList (if x.negative then '-' :: body else body)

/-- The numeral of an integer. -/
def intNumeral (n : Int) : String :=
  match n with
  | .ofNat k => String.ofList (Nat.toDigits 10 k)
  | .negSucc k => String.ofList ('-' :: Nat.toDigits 10 (k + 1))

/-- The numeral of a JSON number. -/
def Number.numeral : Number → String
  | .int n => intNumeral n
  | .float x => floatNumeral x

/-! ## Quoted text -/

/-- The lower-case hexadecimal digit of a number below sixteen. -/
def hexDigit (n : Nat) : Char := Nat.digitChar n

/-- A character inside quotes. -/
def escapeChar (c : Char) : List Char :=
  if c = '"' then ['\\', '"']
  else if c = '\\' then ['\\', '\\']
  else if 0x20 ≤ c.toNat then [c]
  else if c.toNat = 8 then ['\\', 'b']
  else if c.toNat = 9 then ['\\', 't']
  else if c.toNat = 10 then ['\\', 'n']
  else if c.toNat = 12 then ['\\', 'f']
  else if c.toNat = 13 then ['\\', 'r']
  else ['\\', 'u', '0', '0', hexDigit (c.toNat / 16), hexDigit (c.toNat % 16)]

/-- A text in quotes. -/
def quote (s : String) : String :=
  String.ofList ('"' :: (s.toList.flatMap escapeChar ++ ['"']))

/-! ## Layouts -/

mutual

/-- The compact text of a value. -/
def compact : Json → String
  | .null => "null"
  | .bool true => "true"
  | .bool false => "false"
  | .number n => n.numeral
  | .text s => quote s
  | .array xs => "[" ++ compactItems xs ++ "]"
  | .object ms => "\x7b" ++ compactMembers ms ++ "\x7d"

/-- The items of an array, separated by commas. -/
def compactItems : List Json → String
  | [] => ""
  | [x] => compact x
  | x :: y :: rest => compact x ++ "," ++ compactItems (y :: rest)

/-- The members of an object, separated by commas. -/
def compactMembers : List (String × Json) → String
  | [] => ""
  | [(k, x)] => quote k ++ ":" ++ compact x
  | (k, x) :: y :: rest => quote k ++ ":" ++ compact x ++ "," ++ compactMembers (y :: rest)

end

/-- A line break and the indentation of a nesting level. -/
def newline (level : Nat) : String := String.ofList ('\n' :: List.replicate (2 * level) ' ')

mutual

/-- The indented text of a value whose surroundings nest `level` deep. -/
def prettyAt (level : Nat) : Json → String
  | .null => "null"
  | .bool true => "true"
  | .bool false => "false"
  | .number n => n.numeral
  | .text s => quote s
  | .array [] => "[]"
  | .array (x :: xs) => "[" ++ prettyItems (level + 1) (x :: xs) ++ newline level ++ "]"
  | .object [] => "\x7b\x7d"
  | .object (m :: ms) =>
    "\x7b" ++ prettyMembers (level + 1) (m :: ms) ++ newline level ++ "\x7d"

/-- The items of an array, one a line. -/
def prettyItems (level : Nat) : List Json → String
  | [] => ""
  | [x] => newline level ++ prettyAt level x
  | x :: y :: rest => newline level ++ prettyAt level x ++ "," ++ prettyItems level (y :: rest)

/-- The members of an object, one a line. -/
def prettyMembers (level : Nat) : List (String × Json) → String
  | [] => ""
  | [(k, x)] => newline level ++ quote k ++ ": " ++ prettyAt level x
  | (k, x) :: y :: rest =>
    newline level ++ quote k ++ ": " ++ prettyAt level x ++ "," ++ prettyMembers level (y :: rest)

end

/-- The indented text of a value. -/
def pretty (v : Json) : String := prettyAt 0 v

end Json

end Blockflow
