import Blockflow.Timestamp
import Blockflow.Toml.Token

/-!
# Dates and times in settings documents

A document can hold a date, a time of day, both, and both with an offset from universal time.
Whoever reads the document gets the canonical text of it under a key of its own.

* `Moment.read` — a date or time at the front of a text, as its canonical text.
-/

namespace Blockflow.Toml.Moment

/-- A number of exactly `width` digits within bounds. -/
def number (width low high : Nat) : Reader Nat := fun cs =>
  let ds := cs.take width
  let n := natOf ds
  if ds.length = width && ds.all Char.isDigit && low ≤ n && n ≤ high then some (n, cs.drop width)
  else none

/-- The text behind a character. -/
def mark (c : Char) : List Char → Option (List Char)
  | d :: rest => if c = d then some rest else none
  | [] => none

/-- A date. -/
def date : Reader String := fun cs => do
  let (year, cs) ← number 4 0 9999 cs
  let (month, cs) ← number 2 1 12 (← mark '-' cs)
  let (day, cs) ← number 2 1 (Timestamp.daysInMonth year month) (← mark '-' cs)
  return (Timestamp.padded 4 year ++ "-" ++ Timestamp.padded 2 month ++ "-" ++
    Timestamp.padded 2 day, cs)

/-- Up to nine decimals of a second, without zeros at their end. -/
def decimals (ds : List Char) : String :=
  match ((ds.take 9).reverse.dropWhile (· = '0')).reverse with
  | [] => ""
  | ds => "." ++ String.ofList ds

/-- A time of day. -/
def time : Reader String := fun cs => do
  let (hour, cs) ← number 2 0 23 cs
  let (minute, cs) ← number 2 0 59 (← mark ':' cs)
  let (second, cs) ← number 2 0 60 (← mark ':' cs)
  let whole := Timestamp.padded 2 hour ++ ":" ++ Timestamp.padded 2 minute ++ ":" ++
    Timestamp.padded 2 second
  match cs with
  | '.' :: rest =>
    let ds := rest.takeWhile Char.isDigit
    if ds.isEmpty then none else return (whole ++ decimals ds, rest.drop ds.length)
  | cs => return (whole, cs)

/-- An offset from universal time; nothing is read where none stands.  An offset of nothing is a
positive one. -/
def offset : Reader String := fun cs =>
  let signed (word : String) (cs : List Char) : Option (String × List Char) := do
    let (hour, cs) ← number 2 0 23 cs
    let (minute, cs) ← number 2 0 59 (← mark ':' cs)
    let word := if hour = 0 && minute = 0 then "+" else word
    return (word ++ Timestamp.padded 2 hour ++ ":" ++ Timestamp.padded 2 minute, cs)
  match cs with
  | 'Z' :: rest | 'z' :: rest => some ("Z", rest)
  | '+' :: rest => signed "+" rest
  | '-' :: rest => signed "-" rest
  | cs => some ("", cs)

/-- A time of day with its offset, behind a date. -/
def timeAndOffset : Reader String := fun cs => do
  let (t, cs) ← time cs
  let (o, cs) ← offset cs
  return ("T" ++ t ++ o, cs)

/-- **A date or time.**  A date may be followed by a time, behind a letter or one space. -/
def read : Reader String := fun cs =>
  match date cs with
  | none => time cs
  | some (d, rest) =>
    match rest with
    | 'T' :: r | 't' :: r => (timeAndOffset r).map fun (t, rest) => (d ++ t, rest)
    | ' ' :: r =>
      match timeAndOffset r with
      | some (t, rest) => some (d ++ t, rest)
      | none => some (d, rest)
    | _ => some (d, rest)

/-- The key under which readers get the canonical text. -/
def key : String := "$__toml_private_datetime"

/-- A date or time as readers get it. -/
def draft (canonical : String) : Json.Draft := .object [(.text key, .text canonical)]

end Blockflow.Toml.Moment
