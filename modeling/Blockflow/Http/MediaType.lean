import Blockflow.Http.Basic

/-!
# Media types

The kind of a body is told by a media type: a type and a subtype, which may name at its end the
format it is built on, and parameters.

* `Http.isTokenChar` — the characters of words.
* `MediaType` — a media type, without its parameters.
* `MediaType.parameters?` — whether parameters are well formed.
* **`MediaType.parse?`**, **`MediaType.isJson`** — reading one, and those of JSON.
-/

namespace Blockflow

/-- Whether a character may stand in a word: a method, the name of a header, a media type. -/
def Http.isTokenChar (c : Char) : Bool :=
  c.isAlphanum ||
    ['!', '#', '$', '%', '&', '\'', '*', '+', '-', '.', '^', '_', '\x60', '|', '~'].contains c

/-- A media type: its type, its subtype up to the last plus, and what stands behind that. -/
structure MediaType where
  type : List Char
  subtype : List Char
  suffix : Option (List Char) := none
  deriving DecidableEq, Repr, Inhabited

namespace MediaType

/-- Whether a character may stand between quotes. -/
def isQuotable (c : Char) : Bool := 32 ≤ c.toNat && c.toNat < 127

/-- A quoted value whose first quote was read: at least one character, which may itself be a
quote, up to the next quote; behind it blanks and the semicolon of the next parameter. -/
def afterQuoted? : List Char → Option (List Char)
  | [] => none
  | c :: cs =>
    if !isQuotable c then none
    else
      let rest := cs.dropWhile fun c => c ≠ '"' && isQuotable c
      match rest with
      | '"' :: rest =>
        match rest.dropWhile (· = ' ') with
        | [] => some []
        | ';' :: rest => some rest
        | _ => none
      | _ => none

/-- What stands behind a value and its semicolon. -/
def afterValue? (cs : List Char) : Option (List Char) :=
  match cs with
  | '"' :: rest => afterQuoted? rest
  | cs =>
    match cs.dropWhile Http.isTokenChar with
    | [] => some []
    | ';' :: rest => if cs.head? = some ';' then none else some rest
    | _ => none

/-- What stands behind a parameter and its semicolon. -/
def afterParameter? (cs : List Char) : Option (List Char) :=
  match cs.dropWhile Http.isTokenChar with
  | '=' :: rest => if cs.head? = some '=' then none else afterValue? rest
  | _ => none

/-- Whether a text lists parameters, with blanks before each and a semicolon between them.  The
last semicolon may stand at the end. -/
def areParameters (fuel : Nat) (cs : List Char) : Bool :=
  match fuel, cs.dropWhile (· = ' ') with
  | _, [] => true
  | 0, _ => false
  | fuel + 1, cs => (afterParameter? cs).any (areParameters fuel)

/-- The parts of a subtype: a plus at its front is not one that parts it. -/
def splitSuffix (subtype : List Char) : List Char × Option (List Char) :=
  let suffix := (subtype.reverse.takeWhile (· ≠ '+')).reverse
  let before := subtype.take (subtype.length - suffix.length - 1)
  if before.isEmpty then (subtype, none) else (before, some suffix)

/-- **Reads a media type**, in small letters. -/
def parse? (s : String) : Option MediaType := do
  let cs := s.toList.map Char.toLower
  let type := cs.takeWhile Http.isTokenChar
  match cs.drop type.length with
  | '/' :: rest =>
    let subtype := rest.takeWhile Http.isTokenChar
    guard (!type.isEmpty)
    match rest.drop subtype.length with
    | [] => pure ()
    | ';' :: parameters =>
      guard (!subtype.isEmpty && areParameters parameters.length parameters)
    | _ => none
    let (subtype, suffix) := splitSuffix subtype
    return { type, subtype, suffix }
  | _ => none

/-- **Whether a media type is that of JSON**, or of a format built on it. -/
def isJson (m : MediaType) : Bool :=
  m.type = "application".toList &&
    (m.subtype = "json".toList || m.suffix = some "json".toList)

end MediaType

end Blockflow
