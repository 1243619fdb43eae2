import Blockflow.Error
import Blockflow.Text.Blank
import Blockflow.Text.Utf8

/-!
# Event streams

A provider streams its answer as events: lines that name the event's type or hold its data, and
a blank line at the end of each event.  Bytes arrive in pieces cut anywhere, so they are kept
until an event is complete; carriage returns are dropped as they arrive.

* `ServerEvent`, `ServerEvent.ofBlock?` — an event, and the event of the lines before a blank
  one.
* `EventParser`, **`EventParser.feed`** — events completed by a piece of the stream.
* **`EventStream.read`** — all events of a stream, whose last one may lack its blank line.
-/

namespace Blockflow

/-- An event. -/
structure ServerEvent where
  type : Option String := none
  data : String
  deriving DecidableEq, Repr, Inhabited

namespace ServerEvent

/-- The lines of a text. -/
def lines (cs : List Char) : List (List Char) := cs.splitOn '\n'

/-- What is behind a field's name and colon. -/
def field? (name line : List Char) : Option (List Char) :=
  if name.isPrefixOf line then some (line.drop name.length) else none

/-- The type that a line declares; blanks before it do not count. -/
def typeOf? (line : List Char) : Option String :=
  (field? "event:".toList line).map fun cs => String.ofList (Text.dropBlanks cs)

/-- The data on a line; one space before them does not count. -/
def dataOf? (line : List Char) : Option String :=
  (field? "data:".toList line).map fun
    | ' ' :: cs => String.ofList cs
    | cs => String.ofList cs

/-- **The event of the lines before a blank one**, if any of them holds data.  The last declared
type counts. -/
def ofBlock? (block : List UInt8) : Option ServerEvent :=
  let ls := lines (Utf8.decode block).toList
  match ls.filterMap dataOf? with
  | [] => none
  | data => some
    { type := (ls.filterMap typeOf?).getLast?, data := String.intercalate "\n" data }

end ServerEvent

/-! ## Pieces of a stream -/

/-- The bytes of a stream that do not make an event yet. -/
structure EventParser where
  buffer : List UInt8 := []
  deriving DecidableEq, Repr, Inhabited

namespace EventParser

/-- The bytes before the first blank line, and the bytes behind it. -/
def cut? : List UInt8 → Option (List UInt8 × List UInt8)
  | [] => none
  | b :: rest =>
    if b = 10 && rest.head? = some 10 then some ([], rest.tail)
    else (cut? rest).map fun r => (b :: r.1, r.2)

theorem length_of_cut? {bs block rest : List UInt8} (h : cut? bs = some (block, rest)) :
    rest.length < bs.length := by
  induction bs generalizing block with
  | nil => simp [cut?] at h
  | cons b bs ih =>
    simp only [cut?] at h
    split at h
    · cases h
      simp only [List.length_tail, List.length_cons]
      omega
    · obtain ⟨⟨block', rest'⟩, hr, heq⟩ := Option.map_eq_some_iff.1 h
      cases heq
      exact Nat.lt_succ_of_lt (ih hr)

/-- The events of all complete blocks, and the bytes behind them. -/
def events (bs : List UInt8) : List ServerEvent × List UInt8 :=
  match _h : cut? bs with
  | none => ([], bs)
  | some (block, rest) =>
    let later := events rest
    ((ServerEvent.ofBlock? block).toList ++ later.1, later.2)
termination_by bs.length
decreasing_by exact length_of_cut? _h

/-- **The events a piece completes.** -/
def feed (p : EventParser) (piece : List UInt8) : EventParser × List ServerEvent :=
  let (found, left) := events (p.buffer ++ piece.filter (· ≠ 13))
  (⟨left⟩, found)

end EventParser

/-! ## Whole streams -/

namespace EventStream

/-- A piece of a stream, or why the stream broke off. -/
abbrev Piece := Except String (List UInt8)

/-- Reads on from a state of the parser.  At the end of the stream a blank line is added; behind
a break nothing is read. -/
def readFrom (p : EventParser) : List Piece → List ServerEvent × Option Error
  | [] => ((p.feed [10, 10]).2, none)
  | .error reason :: _ => ([], some (.llmStream reason))
  | .ok piece :: rest =>
    let (p, found) := p.feed piece
    let (later, failure) := readFrom p rest
    (found ++ later, failure)

/-- **The events of a stream**, and the error that it broke off with. -/
def read (pieces : List Piece) : List ServerEvent × Option Error := readFrom {} pieces

end EventStream

end Blockflow
