import Blockflow.Http.Domain
import Blockflow.Http.Percent

/-!
# Hosts

A host is a name or a number.  Addresses of known schemes have domains, and a domain that ends in
a number has to be a numeric address of the fourth version; brackets hold one of the sixth.  The
names of other schemes are kept as they are.

* `Host`, `Host.render` — hosts, and their canonical text.
* `Host.ipv4?`, `Host.ipv6?` — reading numeric addresses.
* **`Host.ofDomain?`**, **`Host.ofName?`** — reading hosts of known and of other schemes.
-/

namespace Blockflow

/-- What an address leads to: a name, a number of thirty-two bits, or eight of sixteen. -/
inductive Host where
  | name (text : String)
  | ipv4 (number : Nat)
  | ipv6 (pieces : List Nat)
  deriving DecidableEq, Repr, Inhabited

namespace Host

/-! ## Writing -/

/-- A number in hexadecimal digits. -/
def hex (n : Nat) : List Char := Nat.toDigits 16 n

/-- The length of the run of zeros at the front. -/
def zeros (pieces : List Nat) : Nat := (pieces.takeWhile (· = 0)).length

/-- Where the longest run of zeros starts, the first of the longest ones, and its length. -/
def longestZeros (start : Nat) : List Nat → Nat × Nat
  | [] => (start, 0)
  | p :: ps =>
    let here := zeros (p :: ps)
    let later := longestZeros (start + 1) ps
    if later.2 ≤ here then (start, here) else later

/-- Pieces between colons. -/
def joinPieces (pieces : List Nat) : List Char := [':'].intercalate (pieces.map hex)

/-- The canonical text of eight pieces: two colons stand for the longest run of at least two
zeros. -/
def ipv6Text (pieces : List Nat) : List Char :=
  let (start, count) := longestZeros 0 pieces
  if count < 2 then joinPieces pieces
  else joinPieces (pieces.take start) ++ [':', ':'] ++ joinPieces (pieces.drop (start + count))

/-- **The canonical text of a host.** -/
def render : Host → String
  | .name s => s
  | .ipv4 n =>
    String.intercalate "." <|
      [16777216, 65536, 256, 1].map fun unit => Json.intNumeral ((n / unit % 256 : Nat) : Int)
  | .ipv6 pieces => String.ofList ('[' :: ipv6Text pieces ++ [']'])

/-- Whether a host is there at all. -/
def isPresent (h : Host) : Bool := h ≠ .name ""

/-! ## Numbers of the fourth version -/

/-- A number: decimal, octal behind a zero, hexadecimal behind 0x. -/
def number? (cs : List Char) : Option Nat :=
  let digits (base : Nat) (ds : List Char) : Option Nat :=
    ds.foldl (fun n c => do
      let d ← Json.hex? c
      if d < base then return (← n) * base + d else none) (some 0)
  match cs with
  | [] => none
  | '0' :: 'x' :: ds => digits 16 ds
  | '0' :: ds => digits 8 ds
  | ds => digits 10 ds

/-- The labels of a domain; a last empty one does not count. -/
def labels (domain : List Char) : List (List Char) :=
  let ls := domain.splitOn '.'
  if 1 < ls.length && ls.getLast? = some [] then ls.dropLast else ls

/-- Whether a domain ends in a number, and so has to be a numeric address. -/
def endsInNumber (domain : List Char) : Bool :=
  match (labels domain).getLast? with
  | some l => (!l.isEmpty && l.all Char.isDigit) || (number? l).isSome
  | none => false

/-- A numeric address of the fourth version: its last number fills what the others leave. -/
def ipv4? (domain : List Char) : Option Nat := do
  let ls := labels domain
  guard (ls.length ≤ 4)
  let ns ← ls.mapM number?
  let last ← ns.getLast?
  guard (ns.dropLast.all (· ≤ 255))
  guard (last < Nat.pow 256 (5 - ns.length))
  return ns.dropLast.zipIdx.foldl (fun v (n, i) => v + n * Nat.pow 256 (3 - i)) last

/-! ## Numbers of the sixth version -/

/-- A number up to 255 without leading zeros. -/
def octet? (cs : List Char) : Option Nat := do
  guard (!cs.isEmpty && cs.all Char.isDigit && (cs.length = 1 || cs.head? ≠ some '0'))
  let n ← number? cs
  guard (n ≤ 255)
  return n

/-- Two pieces written as a numeric address of the fourth version, in full. -/
def dotted? (cs : List Char) : Option (List Nat) := do
  match ← (cs.splitOn '.').mapM octet? with
  | [a, b, c, d] => return [a * 256 + b, c * 256 + d]
  | _ => none

/-- A piece of up to four hexadecimal digits. -/
def piece? (cs : List Char) : Option Nat := do
  guard (!cs.isEmpty && cs.length ≤ 4)
  let ds ← cs.mapM Json.hex?
  return ds.foldl (fun n d => n * 16 + d) 0

/-- Pieces between colons; the last two may be written with dots. -/
def pieces? : List (List Char) → Option (List Nat)
  | [] => some []
  | [last] => if last.contains '.' then dotted? last else (piece? last).map fun n => [n]
  | p :: ps => do return (← piece? p) :: (← pieces? ps)

/-- Pieces of a text, which may be empty. -/
def piecesOf? (cs : List Char) : Option (List Nat) :=
  if cs.isEmpty then some [] else pieces? (cs.splitOn ':')

/-- What stands before two colons and behind them, at their first place. -/
def atTwoColons : List Char → Option (List Char × List Char)
  | ':' :: ':' :: rest => some ([], rest)
  | c :: rest => (atTwoColons rest).map fun (before, behind) => (c :: before, behind)
  | [] => none

/-- A numeric address of the sixth version.  Two colons stand for the zeros that are missing, at
least one. -/
def ipv6? (cs : List Char) : Option (List Nat) := do
  match atTwoColons cs with
  | none =>
    let pieces ← piecesOf? cs
    guard (pieces.length = 8)
    return pieces
  | some (before, behind) =>
    guard (!before.contains '.')
    let front ← piecesOf? before
    let back ← piecesOf? behind
    guard (front.length + back.length ≤ 7)
    return front ++ List.replicate (8 - front.length - back.length) 0 ++ back

/-! ## Reading -/

/-- The number between brackets, if brackets open the text. -/
def bracketed? (cs : List Char) : Option (Option Host) :=
  match cs with
  | '[' :: inner =>
    some (if inner.getLast? = some ']' then (ipv6? inner.dropLast).map .ipv6 else none)
  | _ => none

/-- **A host of a known scheme.** -/
def ofDomain? (cs : List Char) : Option Host :=
  match bracketed? cs with
  | some host => host
  | none => do
    let domain ← Domain.canonical? (Utf8.decodeChars (Percent.decode cs))
    if endsInNumber domain then (ipv4? domain).map .ipv4
    else return .name (String.ofList domain)

/-- The characters that may not stand in a host of any scheme. -/
def isForbidden (c : Char) : Bool :=
  c.toNat = 0 || ['\t', '\n', '\r', ' ', '#', '/', ':', '<', '>', '?', '@', '[', '\\', ']', '^',
    '|'].contains c

/-- **A host of another scheme.** -/
def ofName? (cs : List Char) : Option Host :=
  match bracketed? cs with
  | some host => host
  | none =>
    if cs.any isForbidden then none
    else some (.name (String.ofList (Percent.encode Percent.controlSet cs)))

end Host

end Blockflow
