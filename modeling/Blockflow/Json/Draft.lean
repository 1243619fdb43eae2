import Blockflow.Json.Printer

/-!
# JSON texts, read as far as they go

A text that is not JSON still has a readable beginning, and when a text is decoded into a record
the **first** thing wrong with it is reported, be it a wrong type or a missing bracket.  So
reading produces a draft: the tree of the text up to the place where reading stops, in the order
of the text, with repeated keys kept.  Decoders walk the draft in order and meet the stop where
the text has it.

* `Json.Fault` — what can be wrong with a text; `Fault.message` words it.
* `Json.Halt` — what the place where reading stops is to readers that want different things.
* `Json.Draft` — the tree, in which `broken` marks that place and `unreadable` a complete token
  without a value (a number out of range, half a surrogate pair): it stops a decoder but not one
  that skips over it.
* `Json.scaled` — the floating-point number of a significand and a power of ten.
* **`Json.Document.read`** — the draft of a whole text.
-/

namespace Blockflow.Json

/-! ## Faults -/

/-- What is wrong with a text, or with a value met where another was wanted. -/
inductive Fault where
  | endInArray
  | endInObject
  | endInText
  | endInValue
  | noColon
  | noCommaInArray
  | noCommaInObject
  | badWord
  | noValue
  | badEscape
  | badNumber
  | outOfRange
  | controlCharacter
  | keyNotText
  | loneSurrogate
  | halfSurrogatePair
  | trailingComma
  | trailingCharacters
  | tooDeep
  | mismatch (wording : String)
  deriving DecidableEq, Repr, Inhabited

/-- The wording of a fault. -/
def Fault.message : Fault → String
  | .endInArray => "EOF while parsing a list"
  | .endInObject => "EOF while parsing an object"
  | .endInText => "EOF while parsing a string"
  | .endInValue => "EOF while parsing a value"
  | .noColon => "expected `:`"
  | .noCommaInArray => "expected `,` or `]`"
  | .noCommaInObject => "expected `,` or `\x7d`"
  | .badWord => "expected ident"
  | .noValue => "expected value"
  | .badEscape => "invalid escape"
  | .badNumber => "invalid number"
  | .outOfRange => "number out of range"
  | .controlCharacter => "control character (\\u0000-\\u001F) found while parsing a string"
  | .keyNotText => "key must be a string"
  | .loneSurrogate => "lone leading surrogate in hex escape"
  | .halfSurrogatePair => "unexpected end of hex escape"
  | .trailingComma => "trailing comma"
  | .trailingCharacters => "trailing characters"
  | .tooDeep => "recursion limit exceeded"
  | .mismatch wording => wording

/-! ## Drafts -/

/-- What the place where a text stops to be JSON is to a reader that wants the value there, to one
that skips it, and to one that wants a word of an enumeration and looks at the first character
only. -/
structure Halt where
  reading : Fault
  skipping : Fault
  choosing : Fault
  deriving DecidableEq, Repr, Inhabited

/-- An object's key as read. -/
inductive Draft.Key where
  | text (value : String)
  | unreadable (fault : Fault)
  deriving DecidableEq, Repr

/-- The tree of a JSON text as far as it can be read. -/
inductive Draft where
  | null
  | bool (value : Bool)
  | number (value : Number)
  | text (value : String)
  | array (items : List Draft)
  | object (members : List (Draft.Key × Draft))
  | unreadable (fault : Fault)
  | broken (halt : Halt)
  deriving Repr, Inhabited

/-- Reading stops here with one fault for every reader. -/
def Draft.stop (fault : Fault) : Draft := .broken ⟨fault, fault, fault⟩

/-- Reading stops inside a fixed word. -/
def Draft.stopInWord (fault : Fault) : Draft := .broken ⟨fault, fault, .noValue⟩

/-- Reading stops inside a number; one that is skipped is only ever malformed. -/
def Draft.stopInNumber (fault : Fault) : Draft := .broken ⟨fault, .badNumber, .noValue⟩

mutual

/-- A value as a draft: nothing is broken and no key repeats. -/
def Draft.ofJson : Json → Draft
  | .null => .null
  | .bool b => .bool b
  | .number n => .number n
  | .text s => .text s
  | .array xs => .array (Draft.ofItems xs)
  | .object ms => .object (Draft.ofMembers ms)

/-- The items of an array as drafts. -/
def Draft.ofItems : List Json → List Draft
  | [] => []
  | x :: xs => Draft.ofJson x :: Draft.ofItems xs

/-- The members of an object as drafts. -/
def Draft.ofMembers : List (String × Json) → List (Draft.Key × Draft)
  | [] => []
  | (k, x) :: ms => (.text k, Draft.ofJson x) :: Draft.ofMembers ms

end

/-! ## Numbers -/

/-- The greatest integer kept as an integer. -/
def maxInteger : Nat := 18446744073709551615

/-- The exact power of ten, rounded once. -/
def powerOfTen (k : Nat) : Double := .ofRatio false (Nat.pow 10 k) 1

/-- Division by a power of ten in steps of at most `10 ^ 308`, each rounded. -/
def shrink (x : Double) (places : Nat) : Double :=
  if places ≤ 308 then x.scaleDown (powerOfTen places)
  else if x.isZero then x
  else shrink (x.scaleDown (powerOfTen 308)) (places - 308)
termination_by places
decreasing_by omega

/-- **The number of a significand and a power of ten.**  The significand is rounded first and
scaled by one rounded power of ten; a result beyond the greatest number is refused. -/
def scaled (significand : Nat) (exponent : Int) : Option Double :=
  let x : Double := .ofRatio false significand 1
  match exponent with
  | .ofNat k =>
    if x.isZero then some x
    else if 308 < k then none
    else
      let y := x.scaleUp (powerOfTen k)
      if y.isInfinite then none else some y
  | .negSucc k => some (shrink x (k + 1))

/-- The value of a decimal digit. -/
def digit? (c : Char) : Option Nat := if c.isDigit then some (c.toNat - '0'.toNat) else none

/-- Appends leading digits to a significand while it stays an integer of sixty-four bits: the
significand, how many digits it took, and the rest. -/
def absorb (significand : Nat) : List Char → Nat × Nat × List Char
  | [] => (significand, 0, [])
  | c :: cs =>
    match digit? c with
    | some d =>
      if maxInteger < significand * 10 + d then (significand, 0, c :: cs)
      else
        let (s, n, rest) := absorb (significand * 10 + d) cs
        (s, n + 1, rest)
    | none => (significand, 0, c :: cs)

/-- The leading digits and the rest. -/
def spanDigits (cs : List Char) : List Char × List Char :=
  (cs.takeWhile Char.isDigit, cs.dropWhile Char.isDigit)

/-- A read token: its draft, and the text behind it unless reading stopped. -/
abbrev Token := Draft × Option (List Char)

/-- A floating-point token from its parts. -/
def floatToken (negative : Bool) (significand : Nat) (exponent : Int) (rest : List Char) : Token :=
  match scaled significand exponent with
  | some x => (.number (.float (if negative then x.neg else x)), some rest)
  | none => (.unreadable .outOfRange, some rest)

/-- The exponent behind an `e`. -/
def readExponent (negative : Bool) (significand : Nat) (shift : Int) (cs : List Char) : Token :=
  let (down, cs) := match cs with
    | '+' :: r => (false, r)
    | '-' :: r => (true, r)
    | r => (false, r)
  match cs with
  | [] => (.stopInNumber .endInValue, none)
  | c :: _ =>
    if c.isDigit then
      let (ds, rest) := spanDigits cs
      let e : Int := (ds.foldl (fun n d => n * 10 + (d.toNat - '0'.toNat)) 0 : Nat)
      floatToken negative significand (if down then shift - e else shift + e) rest
    else (.stopInNumber .badNumber, none)

/-- The decimals behind a point. -/
def readDecimals (negative : Bool) (significand : Nat) (shift : Int) (cs : List Char) : Token :=
  let (s, taken, rest) := absorb significand cs
  let (dropped, rest) := spanDigits rest
  if taken = 0 && dropped.isEmpty then
    (.stopInNumber (if rest.isEmpty then .endInValue else .badNumber), none)
  else
    match rest with
    | 'e' :: r | 'E' :: r => readExponent negative s (shift - taken) r
    | _ => floatToken negative s (shift - taken) rest

/-- A number, the sign already read.  An integer keeps its kind when it fits sixty-four bits;
minus zero does not. -/
def readNumber (negative : Bool) (cs : List Char) : Token :=
  match cs with
  | [] => (.stopInNumber .endInValue, none)
  | c :: r =>
    if !c.isDigit then (.stopInNumber .badNumber, none)
    else if c = '0' && (r.head?.any Char.isDigit) then (.stopInNumber .badNumber, none)
    else
      let (s, _, rest) := absorb 0 cs
      let (dropped, rest) := spanDigits rest
      match rest with
      | '.' :: r => readDecimals negative s dropped.length r
      | 'e' :: r | 'E' :: r => readExponent negative s dropped.length r
      | _ =>
        if !dropped.isEmpty then floatToken negative s dropped.length rest
        else if !negative then (.number (.int s), some rest)
        else if s = 0 || 9223372036854775808 < s then floatToken true s 0 rest
        else (.number (.int (-s)), some rest)

/-! ## Texts -/

/-- The value of a hexadecimal digit. -/
def hex? (c : Char) : Option Nat :=
  if '0' ≤ c ∧ c ≤ '9' then some (c.toNat - '0'.toNat)
  else if 'a' ≤ c ∧ c ≤ 'f' then some (c.toNat - 'a'.toNat + 10)
  else if 'A' ≤ c ∧ c ≤ 'F' then some (c.toNat - 'A'.toNat + 10)
  else none

/-- Four hexadecimal digits.  They are counted in bytes, so that fewer than four bytes before the
end are an unfinished text and anything else that is not a digit a bad escape. -/
def readHex (cs : List Char) : Except Fault (Nat × List Char) :=
  match cs with
  | a :: b :: c :: d :: rest =>
    match hex? a, hex? b, hex? c, hex? d with
    | some a, some b, some c, some d => .ok (((a * 16 + b) * 16 + c) * 16 + d, rest)
    | _, _, _, _ => .error .badEscape
  | short =>
    if 4 ≤ short.foldl (fun n c => n + c.utf8Size) 0 then .error .badEscape else .error .endInText

/-- The character of a one-letter escape. -/
def escape? : Char → Option Char
  | '"' => some '"'
  | '\\' => some '\\'
  | '/' => some '/'
  | 'b' => some '\x08'
  | 'f' => some '\x0c'
  | 'n' => some '\n'
  | 'r' => some '\r'
  | 't' => some '\t'
  | _ => none

/-- The character of a four-digit escape and the text behind it; a leading surrogate takes the
trailing one behind it. -/
def readUnit (cs : List Char) : Except Fault (Char × List Char) :=
  match readHex cs with
  | .error f => .error f
  | .ok (n, rest) =>
    if 0xDC00 ≤ n && n ≤ 0xDFFF then .error .loneSurrogate
    else if n < 0xD800 || 0xDBFF < n then .ok (Char.ofNat n, rest)
    else
      match rest with
      | [] => .error .endInText
      | '\\' :: [] => .error .endInText
      | '\\' :: 'u' :: rest =>
        match readHex rest with
        | .error f => .error f
        | .ok (m, rest) =>
          if m < 0xDC00 || 0xDFFF < m then .error .loneSurrogate
          else .ok (Char.ofNat ((n - 0xD800) * 1024 + (m - 0xDC00) + 0x10000), rest)
      | _ => .error .halfSurrogatePair

/-- The contents of a text whose opening quote was read, up to its closing quote. -/
def readText (fuel : Nat) (acc : List Char) (cs : List Char) :
    Except Fault (String × List Char) :=
  match fuel with
  | 0 => .error .endInText
  | fuel + 1 =>
    match cs with
    | [] => .error .endInText
    | '"' :: rest => .ok (String.ofList acc.reverse, rest)
    | '\\' :: [] => .error .endInText
    | '\\' :: 'u' :: rest =>
      match readUnit rest with
      | .ok (c, rest) => readText fuel (c :: acc) rest
      | .error f => .error f
    | '\\' :: e :: rest =>
      match escape? e with
      | some c => readText fuel (c :: acc) rest
      | none => .error .badEscape
    | c :: rest =>
      if c.toNat < 0x20 then .error .controlCharacter else readText fuel (c :: acc) rest

/-- The text behind the closing quote, for a reader that does not want the contents: surrogates
are not paired up. -/
def skipText (fuel : Nat) (cs : List Char) : Except Fault (List Char) :=
  match fuel with
  | 0 => .error .endInText
  | fuel + 1 =>
    match cs with
    | [] => .error .endInText
    | '"' :: rest => .ok rest
    | '\\' :: [] => .error .endInText
    | '\\' :: 'u' :: rest =>
      match readHex rest with
      | .ok (_, rest) => skipText fuel rest
      | .error f => .error f
    | '\\' :: e :: rest => if (escape? e).isSome then skipText fuel rest else .error .badEscape
    | c :: rest => if c.toNat < 0x20 then .error .controlCharacter else skipText fuel rest

/-- A text token: what a reader gets and where a skipping reader goes on. -/
def readTextToken (cs : List Char) : Token :=
  match readText (cs.length + 1) [] cs with
  | .ok (s, rest) => (.text s, some rest)
  | .error f =>
    match skipText (cs.length + 1) cs with
    | .ok rest => (.unreadable f, some rest)
    | .error g => (.broken ⟨f, g, f⟩, none)

/-! ## Values -/

/-- Blanks of the format. -/
def isBlank (c : Char) : Bool := c = ' ' || c = '\n' || c = '\t' || c = '\r'

/-- The text behind leading blanks. -/
def skipBlanks (cs : List Char) : List Char := cs.dropWhile isBlank

/-- The rest of a fixed word whose first letter was read. -/
def readWord (value : Draft) : (word : List Char) → List Char → Token
  | [], rest => (value, some rest)
  | _ :: _, [] => (.stopInWord .endInValue, none)
  | w :: ws, c :: cs => if c = w then readWord value ws cs else (.stopInWord .badWord, none)

mutual

/-- One value and the text behind it. -/
def readValue (fuel : Nat) (cs : List Char) : Token :=
  match fuel with
  | 0 => (.stop .endInValue, none)
  | fuel + 1 =>
    match skipBlanks cs with
    | [] => (.stop .endInValue, none)
    | 'n' :: rest => readWord .null ['u', 'l', 'l'] rest
    | 't' :: rest => readWord (.bool true) ['r', 'u', 'e'] rest
    | 'f' :: rest => readWord (.bool false) ['a', 'l', 's', 'e'] rest
    | '"' :: rest => readTextToken rest
    | '-' :: rest => readNumber true rest
    | '[' :: rest =>
      let (items, rest) := readItems fuel true rest
      (.array items, rest)
    | '\x7b' :: rest =>
      let (members, rest) := readMembers fuel true rest
      (.object members, rest)
    | c :: rest => if c.isDigit then readNumber false (c :: rest) else (.stop .noValue, none)

/-- The items of an array up to its end. -/
def readItems (fuel : Nat) (first : Bool) (cs : List Char) :
    List Draft × Option (List Char) :=
  match fuel with
  | 0 => ([.stop .endInArray], none)
  | fuel + 1 =>
    match skipBlanks cs with
    | [] => ([.stop .endInArray], none)
    | ']' :: rest => ([], some rest)
    | c :: rest =>
      if first then readItem fuel (c :: rest)
      else if c = ',' then
        match skipBlanks rest with
        | [] => ([.stop .endInValue], none)
        | ']' :: _ => ([.broken ⟨.trailingComma, .noValue, .trailingComma⟩], none)
        | rest => readItem fuel rest
      else ([.stop .noCommaInArray], none)

/-- An item and the items behind it. -/
def readItem (fuel : Nat) (cs : List Char) : List Draft × Option (List Char) :=
  match fuel with
  | 0 => ([.stop .endInArray], none)
  | fuel + 1 =>
    match readValue fuel cs with
    | (d, none) => ([d], none)
    | (d, some rest) =>
      let (items, rest) := readItems fuel false rest
      (d :: items, rest)

/-- The members of an object up to its end. -/
def readMembers (fuel : Nat) (first : Bool) (cs : List Char) :
    List (Draft.Key × Draft) × Option (List Char) :=
  let stop (reading skipping : Fault) : List (Draft.Key × Draft) × Option (List Char) :=
    ([(.unreadable reading, .broken ⟨reading, skipping, reading⟩)], none)
  match fuel with
  | 0 => stop .endInObject .endInObject
  | fuel + 1 =>
    match skipBlanks cs with
    | [] => stop .endInObject .endInObject
    | '\x7d' :: rest => ([], some rest)
    | c :: rest =>
      if first then
        if c = '"' then readMember fuel rest else stop .keyNotText .keyNotText
      else if c = ',' then
        match skipBlanks rest with
        | [] => stop .endInValue .endInObject
        | '"' :: rest => readMember fuel rest
        | '\x7d' :: _ => stop .trailingComma .keyNotText
        | _ => stop .keyNotText .keyNotText
      else stop .noCommaInObject .noCommaInObject

/-- A member whose key's opening quote was read, and the members behind it. -/
def readMember (fuel : Nat) (cs : List Char) :
    List (Draft.Key × Draft) × Option (List Char) :=
  match fuel with
  | 0 => ([(.unreadable .endInObject, .stop .endInObject)], none)
  | fuel + 1 =>
    match readTextToken cs with
    | (.text key, some rest) => readMemberValue fuel (.text key) rest
    | (.unreadable f, some rest) => readMemberValue fuel (.unreadable f) rest
    | (.broken halt, _) => ([(.unreadable halt.reading, .broken halt)], none)
    | _ => ([(.unreadable .endInText, .stop .endInText)], none)

/-- The colon and the value behind a key, and the members behind them. -/
def readMemberValue (fuel : Nat) (key : Draft.Key) (cs : List Char) :
    List (Draft.Key × Draft) × Option (List Char) :=
  match fuel with
  | 0 => ([(key, .stop .endInObject)], none)
  | fuel + 1 =>
    match skipBlanks cs with
    | [] => ([(key, .stop .endInObject)], none)
    | ':' :: rest =>
      match readValue fuel rest with
      | (d, none) => ([(key, d)], none)
      | (d, some rest) =>
        let (members, rest) := readMembers fuel false rest
        ((key, d) :: members, rest)
    | _ => ([(key, .stop .noColon)], none)

end

/-- A whole text: its value, and whether more than blanks stand behind it. -/
structure Document where
  draft : Draft
  trailing : Bool
  deriving Repr, Inhabited

/-- **The draft of a text.** -/
def Document.read (source : String) : Document :=
  let cs := source.toList
  match readValue (4 * cs.length + 8) cs with
  | (d, none) => ⟨d, false⟩
  | (d, some rest) => ⟨d, !(skipBlanks rest).isEmpty⟩

end Blockflow.Json
