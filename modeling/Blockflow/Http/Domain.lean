import Blockflow.Http.Domain.Label

/-!
# Domains

A domain is sent in one form, however it is written: each character in its spelling, letters with
their marks, labels beyond ASCII in a code.

* `Domain.isForbidden` — the characters that may not stand in what is sent.
* `Domain.runsOneWay` — domains whose labels can be shown side by side.
* **`Domain.canonical?`** — the form in which a domain is sent.
-/

namespace Blockflow.Domain

/-- Whether a character may not stand in a domain that is sent. -/
def isForbidden (c : Char) : Bool :=
  c.toNat ≤ 32 || 126 < c.toNat ||
    ['#', '%', '/', ':', '<', '>', '?', '@', '[', '\\', ']', '^', '|'].contains c

/-- Whether labels can be shown side by side: if one runs to the left, each runs one way. -/
def runsOneWay (labels : List Label) : Bool :=
  !labels.any (fun l => Label.runsLeft l.shown) || labels.all fun l => Label.runsOneWay l.shown

/-- The characters of a domain in their spelling, composed. -/
def spelled? (cs : List Char) : Option (List Char) := do
  return Text.composed (← cs.mapM spelling?).flatten

/-- **The form in which a domain is sent**, if it has one. -/
def canonical? (cs : List Char) : Option (List Char) := do
  let labels ← ((← spelled? cs).splitOn '.').mapM Label.read?
  let sent := ['.'].intercalate (labels.map Label.sent)
  guard (runsOneWay labels && !sent.isEmpty && !sent.any isForbidden)
  return sent

end Blockflow.Domain
