import Blockflow.Text.Utf8
import Blockflow.Json.Draft

/-!
# Percent-encoding

A byte that may not stand in some part of an address is written as a percent sign and two
hexadecimal digits.  Each part has its own set of characters that may not stand in it; what lies
beyond ASCII may stand in none.

* `Percent.controlSet`, `Percent.fragmentSet`, `Percent.pathSet`, `Percent.userSet`,
  `Percent.querySet` — the sets.
* **`Percent.encode`**, `Percent.form` — encoding for a set, and for a field of a form.
* **`Percent.decode`** — the bytes behind the percent signs.
-/

namespace Blockflow.Percent

/-- A byte as a percent sign and two hexadecimal digits. -/
def byte (b : UInt8) : List Char :=
  ['%', (Nat.digitChar (b.toNat / 16)).toUpper, (Nat.digitChar (b.toNat % 16)).toUpper]

/-- **Encodes the characters of a set**; characters beyond ASCII belong to every set. -/
def encode (set : Char → Bool) (cs : List Char) : List Char :=
  cs.flatMap fun c =>
    if set c || 127 < c.toNat then (Utf8.encode (String.singleton c)).flatMap byte else [c]

/-- Control characters. -/
def controlSet (c : Char) : Bool := c.toNat < 32 || c.toNat = 127

/-- The characters encoded in fragments. -/
def fragmentSet (c : Char) : Bool := controlSet c || [' ', '"', '<', '>', '\x60'].contains c

/-- The characters encoded in paths. -/
def pathSet (c : Char) : Bool :=
  fragmentSet c || ['#', '?', '\x7b', '\x7d'].contains c

/-- The characters encoded in the names and secrets of users. -/
def userSet (c : Char) : Bool :=
  pathSet c || ['/', ':', ';', '=', '@', '[', '\\', ']', '^', '|'].contains c

/-- The characters encoded in queries; a single quote only where the scheme is a known one. -/
def querySet (known : Bool) (c : Char) : Bool :=
  controlSet c || [' ', '"', '#', '<', '>'].contains c || (known && c = '\'')

/-- Encodes the text of a form field. -/
def form (s : String) : List Char :=
  s.toList.flatMap fun c =>
    if c = ' ' then ['+']
    else if c.isAlphanum || ['*', '-', '.', '_'].contains c then [c]
    else (Utf8.encode (String.singleton c)).flatMap byte

/-- **The bytes of a text** in which percent signs with two hexadecimal digits stand for bytes. -/
def decode : List Char → List UInt8
  | '%' :: a :: b :: rest =>
    match Json.hex? a, Json.hex? b with
    | some high, some low => .ofNat (high * 16 + low) :: decode rest
    | _, _ => 37 :: decode (a :: b :: rest)
  | c :: rest => Utf8.encode (String.singleton c) ++ decode rest
  | [] => []

/-- The text of a text with percent signs, if its bytes are the encoding of one. -/
def text? (cs : List Char) : Option String :=
  let bytes := decode cs
  let s := Utf8.decode bytes
  if Utf8.encode s = bytes then some s else none

end Blockflow.Percent
