import Blockflow.Text.Blank

/-!
# Points in time

Records and results carry points in time in the form of RFC 3339.  They are read leniently —
blanks between the parts, one-digit parts, a missing colon in the offset — and written in
universal time with as many decimals, in groups of three, as the fraction needs.

* `Timestamp` — seconds since 1970 and nanoseconds.
* `Timestamp.daysOfDate`, `Timestamp.dateOfDays` — the proleptic Gregorian calendar.
* **`Timestamp.parse`**, `Timestamp.render` — reading and writing.
-/

namespace Blockflow

/-- A point in time: whole seconds since the start of 1970 in universal time, and nanoseconds; a
leap second has more than a thousand million of them. -/
structure Timestamp where
  seconds : Int
  nanos : Nat
  deriving DecidableEq, Repr, Inhabited

namespace Timestamp

/-- Whether a point in time is not later than another. -/
def notAfter (a b : Timestamp) : Bool :=
  a.seconds < b.seconds || (a.seconds = b.seconds && a.nanos ≤ b.nanos)

/-- The day of a point in time, counted from the start of 1970. -/
def day (t : Timestamp) : Int := t.seconds.fdiv 86400

/-! ## The calendar -/

/-- A calendar date. -/
structure Date where
  year : Int
  month : Nat
  day : Nat
  deriving DecidableEq, Repr

/-- Whether a year has a twenty-ninth of February. -/
def isLeap (year : Int) : Bool := year % 4 = 0 && (year % 100 ≠ 0 || year % 400 = 0)

/-- The number of days of a month. -/
def daysInMonth (year : Int) (month : Nat) : Nat :=
  if month = 2 then (if isLeap year then 29 else 28)
  else if month = 4 || month = 6 || month = 9 || month = 11 then 30
  else 31

/-- Days from the start of 1970 to a date.  Years are counted from March, so that the leap day
ends one. -/
def daysOfDate (d : Date) : Int :=
  let y : Int := if d.month ≤ 2 then d.year - 1 else d.year
  let era := y.fdiv 400
  let yearOfEra := y - era * 400
  let monthFromMarch : Int := if d.month ≤ 2 then d.month + 9 else d.month - 3
  let dayOfYear := (153 * monthFromMarch + 2) / 5 + d.day - 1
  let dayOfEra := yearOfEra * 365 + yearOfEra / 4 - yearOfEra / 100 + dayOfYear
  era * 146097 + dayOfEra - 719468

/-- The date a number of days after the start of 1970. -/
def dateOfDays (days : Int) : Date :=
  let z := days + 719468
  let era := z.fdiv 146097
  let dayOfEra := z - era * 146097
  let yearOfEra := (dayOfEra - dayOfEra / 1460 + dayOfEra / 36524 - dayOfEra / 146096) / 365
  let dayOfYear := dayOfEra - (365 * yearOfEra + yearOfEra / 4 - yearOfEra / 100)
  let monthFromMarch := (5 * dayOfYear + 2) / 153
  let day := dayOfYear - (153 * monthFromMarch + 2) / 5 + 1
  let month := if monthFromMarch < 10 then monthFromMarch + 3 else monthFromMarch - 9
  let year := yearOfEra + era * 400 + (if month ≤ 2 then 1 else 0)
  ⟨year, month.toNat, day.toNat⟩

/-! ## Writing -/

/-- A number with at least `width` digits. -/
def padded (width n : Nat) : String :=
  let ds := Nat.toDigits 10 n
  String.ofList (List.replicate (width - ds.length) '0' ++ ds)

/-- The year: four digits, signed outside the four-digit years. -/
def yearText (year : Int) : String :=
  if 0 ≤ year && year ≤ 9999 then padded 4 year.toNat
  else (if year < 0 then "-" else "+") ++ padded 4 year.natAbs

/-- The fraction: none, or three, six or nine decimals. -/
def fractionText (nanos : Nat) : String :=
  if nanos = 0 then ""
  else if nanos % 1000000 = 0 then "." ++ padded 3 (nanos / 1000000)
  else if nanos % 1000 = 0 then "." ++ padded 6 (nanos / 1000)
  else "." ++ padded 9 nanos

/-- **The text of a point in time**, in universal time. -/
def render (t : Timestamp) : String :=
  let days := t.seconds.fdiv 86400
  let rest := (t.seconds - days * 86400).toNat
  let d := dateOfDays days
  let leap := t.nanos / 1000000000
  yearText d.year ++ "-" ++ padded 2 d.month ++ "-" ++ padded 2 d.day ++ "T" ++
    padded 2 (rest / 3600) ++ ":" ++ padded 2 (rest / 60 % 60) ++ ":" ++
    padded 2 (rest % 60 + leap) ++ fractionText (t.nanos % 1000000000) ++ "Z"

/-! ## Reading -/

/-- Why a text is no point in time. -/
inductive Flaw where
  | outOfRange
  | impossible
  | invalid
  | tooShort
  | tooLong
  deriving DecidableEq, Repr

/-- The wording of a flaw. -/
def Flaw.message : Flaw → String
  | .outOfRange => "input is out of range"
  | .impossible => "no possible date and time matching input"
  | .invalid => "input contains invalid characters"
  | .tooShort => "premature end of input"
  | .tooLong => "trailing input"

/-- A reader of the front of a text. -/
abbrev Reader (α : Type) := StateT (List Char) (Except Flaw) α

/-- Skips blanks. -/
def blanks : Reader Unit := modify Text.dropBlanks

/-- The value of decimal digits. -/
def digitsValue (ds : List Char) : Nat := ds.foldl (fun n c => n * 10 + (c.toNat - '0'.toNat)) 0

/-- One to `width` digits. -/
def digits (width : Nat) : Reader (List Char) := do
  let cs ← get
  let ds := (cs.take width).takeWhile Char.isDigit
  if cs.isEmpty then throw .tooShort
  else if ds.isEmpty then throw .invalid
  else
    set (cs.drop ds.length)
    return ds

/-- Blanks and a number of one to `width` digits within bounds. -/
def number (width low high : Nat) : Reader Nat := do
  blanks
  let n := digitsValue (← digits width)
  if low ≤ n && n ≤ high then return n else throw .outOfRange

/-- Blanks and a year: four digits at most, or any number behind a sign. -/
def year : Reader Int := do
  blanks
  match ← get with
  | '-' :: rest =>
    set rest
    let n := digitsValue (← digits rest.length)
    if n ≤ 2147483648 then return -(n : Int) else throw .outOfRange
  | '+' :: rest =>
    set rest
    let n := digitsValue (← digits rest.length)
    if n ≤ 2147483647 then return n else throw .outOfRange
  | _ => return (digitsValue (← digits 4) : Int)

/-- Blanks and a fixed character. -/
def separator (c : Char) : Reader Unit := do
  blanks
  match ← get with
  | [] => throw .tooShort
  | d :: rest => if d = c then set rest else throw .invalid

/-- The decimals of the seconds, if there are any; those behind the ninth are dropped. -/
def fraction : Reader Nat := do
  match ← get with
  | '.' :: rest =>
    set rest
    let ds ← digits 9
    modify fun cs => cs.dropWhile Char.isDigit
    return digitsValue ds * Nat.pow 10 (9 - ds.length)
  | _ => return 0

/-- Two digits of an offset.  They are looked for in the first two bytes, so that one wide
character is not too short. -/
def twoDigits : Reader (Char × Char) := do
  match ← get with
  | a :: b :: rest =>
    if a.isDigit && b.isDigit then
      set rest
      return (a, b)
    else throw .invalid
  | [a] => throw (if a.toNat < 128 then .tooShort else .invalid)
  | [] => throw .tooShort

/-- The offset from universal time, in seconds; whether there is such an offset is not asked. -/
def offset : Reader Int := do
  let cs ← get
  match cs with
  | 'Z' :: rest | 'z' :: rest =>
    set rest
    return 0
  | u :: t :: c :: rest =>
    if u.toUpper = 'U' && t.toUpper = 'T' && c.toUpper = 'C' then
      set rest
      return 0
    else signed cs
  | _ => signed cs
where
  signed (cs : List Char) : Reader Int := do
    match cs with
    | [] => throw .tooShort
    | sign :: rest =>
      if sign != '+' && sign != '-' && sign != '−' then throw .invalid
      set rest
      let (a, b) ← twoDigits
      modify fun cs => cs.dropWhile fun c => c = ':' || Text.isBlank c
      let (c, d) ← twoDigits
      if '5' < c then throw .outOfRange
      let seconds : Int := (digitsValue [a, b] * 3600 + digitsValue [c, d] * 60 : Nat)
      return if sign = '+' then seconds else -seconds

/-- The first and the last year of the calendar. -/
def firstYear : Int := -262143

@[inherit_doc firstYear]
def lastYear : Int := 262142

/-- A date, a time and an offset.  The parts are read to the end of the text before they are put
together: a date that the calendar does not have or an offset of a day or more is out of range,
and a point in time before or behind the calendar is impossible. -/
def dateTime : Reader Timestamp := do
  let y ← year
  separator '-'
  let m ← number 2 1 12
  separator '-'
  let d ← number 2 1 31
  match ← get with
  | [] => throw .tooShort
  | c :: rest => if c = 't' || c = 'T' || c = ' ' then set rest else throw .invalid
  let hour ← number 2 0 23
  separator ':'
  let minute ← number 2 0 59
  separator ':'
  let second ← number 2 0 60
  let nanos ← fraction
  blanks
  let shift ← offset
  blanks
  if !(← get).isEmpty then throw .tooLong
  if y < firstYear || lastYear < y || daysInMonth y m < d then throw .outOfRange
  if 86400 ≤ shift.natAbs then throw .outOfRange
  let leap := if second = 60 then 1 else 0
  let seconds := daysOfDate ⟨y, m, d⟩ * 86400 +
    ((hour * 3600 + minute * 60 + (second - leap) : Nat) : Int) - shift
  if seconds < daysOfDate ⟨firstYear, 1, 1⟩ * 86400 ||
      daysOfDate ⟨lastYear + 1, 1, 1⟩ * 86400 ≤ seconds then
    throw .impossible
  return ⟨seconds, nanos + leap * 1000000000⟩

/-- **Reads a point in time.** -/
def parse (s : String) : Except Flaw Timestamp :=
  (dateTime.run s.toList).map Prod.fst

end Timestamp

end Blockflow
