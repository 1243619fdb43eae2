import Blockflow.Http.Domain.Punycode
import Blockflow.Http.Domain.Spelling
import Blockflow.Text.Composition
import Blockflow.Text.Direction
import Blockflow.Text.Joining
import Blockflow.Text.Mark

/-!
# Labels

The labels of a domain stand between points.  One that has characters beyond ASCII is sent as the
letters `xn--` and a code for them; a label that already has this form must stand for one that
could have been written out.

* `Label.isFit` — what every label keeps to: it starts with no mark, and what keeps letters
  together or apart stands only where it shows.
* `Label.runsLeft`, `Label.runsOneWay` — which way the letters of a label run.
* **`Domain.Label.read?`** — a label as it is shown and as it is sent.
-/

namespace Blockflow.Domain

/-- A label as it is shown and as it is sent. -/
structure Label where
  shown : List Char
  sent : List Char
  deriving DecidableEq, Repr, Inhabited

namespace Label

/-! ## Marks and joiners -/

/-- The character that keeps letters apart. -/
def separator : Char := '\u200C'

/-- The character that keeps letters together. -/
def joiner : Char := '\u200D'

/-- Whether the next letter, past marks, joins on one of the given sides. -/
def joins (sides : List Text.Joining) (cs : List Char) : Bool :=
  match cs.dropWhile fun c => Text.joining c = .passes with
  | c :: _ => sides.contains (Text.joining c)
  | [] => false

/-- Whether a joiner or separator shows between the characters before it, nearest first, and those
behind: each does behind a mark that drops a vowel, and a separator between letters that would
join. -/
def showsBetween (c : Char) (before behind : List Char) : Bool :=
  before.head?.any (Text.combiningClass · = 9) ||
    (c = separator && joins [.leftSide, .bothSides] before && joins [.rightSide, .bothSides] behind)

/-- Whether every joiner and separator shows. -/
def joinersShow (before : List Char) : List Char → Bool
  | [] => true
  | c :: cs =>
    ((c ≠ separator && c ≠ joiner) || showsBetween c before cs) && joinersShow (c :: before) cs

/-- What every label keeps to. -/
def isFit (cs : List Char) : Bool := !cs.head?.any Text.isMark && joinersShow [] cs

/-! ## Directions -/

/-- Whether a label holds what runs to the left. -/
def runsLeft (cs : List Char) : Bool :=
  cs.any fun c => Text.direction c = .leftward || Text.direction c = .arabicDigit

/-- Whether a label runs one way: what it may hold and what it may end in, marks apart, is settled
by its first letter, and digits of both kinds do not meet where it runs to the left. -/
def runsOneWay (cs : List Char) : Bool :=
  let ds := cs.map Text.direction
  let last := (ds.reverse.dropWhile (· = .mark)).head?
  match ds.head? with
  | none => true
  | some .rightward =>
    ds.all (fun d => d ≠ .leftward && d ≠ .arabicDigit) &&
      (last = some .rightward || last = some .digit)
  | some .leftward =>
    ds.all (· ≠ .rightward) && last ≠ some .sign &&
      !(ds.contains .digit && ds.contains .arabicDigit)
  | some _ => false

/-! ## Reading -/

/-- What labels start with that are sent in a code. -/
def tag : List Char := ['x', 'n', '-', '-']

/-- Whether a text is spelled as labels are shown. -/
def isSpelled (cs : List Char) : Bool :=
  cs.all (fun c => spelling? c = some [c]) && Text.composed cs = cs

/-- **A label of a domain whose characters have their spelling.**  A code must stand for something
beyond ASCII and be no longer than two thousand characters; a label that is sent in a code has at
most a thousand. -/
def read? (cs : List Char) : Option Label :=
  if tag.isPrefixOf cs then do
    let code := cs.drop tag.length
    guard (code.length ≤ 2000)
    let shown ← Punycode.decode? code
    guard (shown.any (127 < ·.toNat) && isSpelled shown && isFit shown)
    return ⟨shown, cs⟩
  else if !isFit cs then none
  else if cs.all (·.toNat < 128) then some ⟨cs, cs⟩
  else if cs.length ≤ 1000 then some ⟨cs, tag ++ Punycode.encode cs⟩
  else none

end Label

end Blockflow.Domain
