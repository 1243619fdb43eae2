import Blockflow.Json.Draft
import Blockflow.Text.Quoted

/-!
# Codecs: reading and writing typed values

Each type that travels as JSON has one `Codec`, which reads the type from a draft and writes it
as a value.  Codecs are built from the codecs of their parts, so that a record's fields, their
defaults and the fields it leaves out when empty are stated once.

The same codec serves four sources that differ in what they report: a text, read in its own
order and at most 127 levels deep; a value already in memory; the buffered members of an
object whose kind was told by one of them; and a settings document, which is read more leniently.

* `Codec α` — a reader, a writer, and the value of an absent field.
* `Codec.text`, `Codec.bool`, `Codec.natural`, `Codec.list`, `Codec.table`, `Codec.option`, … —
  the codecs of plain types.
* `Codec.words` — an enumeration, one word for each of its values.
* `Field`, `Fields` — the fields of a record: required, defaulted or optional.
* **`Codec.record`**, `Codec.refine`, `Codec.tagged` — records, checked types, and sums told apart
  by a member.
* `Codec.decode`, `Codec.ofText`, `Codec.ofJson`, `Codec.ofSettings` — decoding a whole text,
  value or settings document.
-/

namespace Blockflow.Json

/-! ## Sources -/

/-- Where a draft comes from.  `text room` may open `room - 1` further levels. -/
inductive Source where
  | text (room : Nat)
  | value
  | buffered
  | settings
  deriving DecidableEq, Repr

namespace Source

/-- A text of which nothing was read. -/
def start : Source := .text 128

/-- The source inside an array or object. -/
def enter : Source → Except Fault Source
  | .text room => if room ≤ 1 then .error .tooDeep else .ok (.text (room - 1))
  | s => .ok s

end Source

/-! ## Drafts as they are wanted -/

namespace Draft

/-- What a draft is, for a message about what was wanted instead. -/
def describe : Draft → String
  | .null => "null"
  | .bool true => "boolean `true`"
  | .bool false => "boolean `false`"
  | .number (.int n) => "integer `" ++ intNumeral n ++ "`"
  | .number (.float x) => "floating point `" ++ floatNumeral x ++ "`"
  | .text s => "string " ++ Text.shown s
  | .array _ => "sequence"
  | .object _ => "map"
  | .unreadable f => f.message
  | .broken halt => halt.reading.message

/-- The fault of a draft that is not what was wanted; where reading stopped, that. -/
def unlike (d : Draft) (wanted : String) : Fault :=
  match d with
  | .unreadable f => f
  | .broken halt => halt.reading
  | d => .mismatch ("invalid type: " ++ d.describe ++ ", expected " ++ wanted)

mutual

/-- The first fault for a reader that wants the whole value. -/
def fault? (source : Source) : Draft → Option Fault
  | .unreadable f => some f
  | .broken halt => some halt.reading
  | .array items =>
    match source.enter with
    | .error f => some f
    | .ok inner => faultItems? inner items
  | .object members =>
    match source.enter with
    | .error f => some f
    | .ok inner => faultMembers? inner members
  | _ => none

/-- The first fault among the items. -/
def faultItems? (source : Source) : List Draft → Option Fault
  | [] => none
  | d :: ds => (fault? source d).or (faultItems? source ds)

/-- The first fault among the members, a key's before its value's. -/
def faultMembers? (source : Source) : List (Key × Draft) → Option Fault
  | [] => none
  | (.unreadable f, _) :: _ => some f
  | (.text _, d) :: ms => (fault? source d).or (faultMembers? source ms)

end

mutual

/-- The first fault for a reader that skips the value. -/
def skipFault? : Draft → Option Fault
  | .broken halt => some halt.skipping
  | .array items => skipFaultItems? items
  | .object members => skipFaultMembers? members
  | _ => none

/-- The first fault among skipped items. -/
def skipFaultItems? : List Draft → Option Fault
  | [] => none
  | d :: ds => (skipFault? d).or (skipFaultItems? ds)

/-- The first fault among skipped members. -/
def skipFaultMembers? : List (Key × Draft) → Option Fault
  | [] => none
  | (_, d) :: ms => (skipFault? d).or (skipFaultMembers? ms)

end

mutual

/-- The value of a draft without faults; the last of several members with one key stays, and a
number that is not finite becomes null. -/
def value : Draft → Json
  | .null => .null
  | .bool b => .bool b
  | .number (.int n) => .int n
  | .number (.float x) => .float x
  | .text s => .text s
  | .array items => .array (valueItems items)
  | .object members => .object (valueMembers [] members)
  | .unreadable _ | .broken _ => .null

/-- The values of items. -/
def valueItems : List Draft → List Json
  | [] => []
  | d :: ds => value d :: valueItems ds

/-- The members entered into a table, in order. -/
def valueMembers (acc : Object) : List (Key × Draft) → Object
  | [] => acc
  | (.text k, d) :: ms => valueMembers (Table.insert acc k (value d)) ms
  | (.unreadable _, _) :: ms => valueMembers acc ms

end

end Draft

/-! ## Codecs of plain types -/

/-- How a type is read from JSON and written as JSON.  `absent` is the value of a field that is
missing, for types that have one. -/
structure Codec (α : Type) where
  read : Source → Draft → Except Fault α
  write : α → Json
  absent : Option α := none

namespace Codec

variable {α β γ σ τ : Type}

/-- Any value. -/
def json : Codec Json where
  read source d :=
    match d.fault? source with
    | some f => .error f
    | none => .ok d.value
  write v := v

/-- A text. -/
def text : Codec String where
  read _ d :=
    match d with
    | .text s => .ok s
    | d => .error (d.unlike "a string")
  write s := .text s

/-- A truth value. -/
def bool : Codec Bool where
  read _ d :=
    match d with
    | .bool b => .ok b
    | d => .error (d.unlike "a boolean")
  write b := .bool b

/-- A natural number at most `limit`; `wanted` is what messages call it. -/
def natural (limit : Nat) (wanted : String) : Codec Nat where
  read _ d :=
    match d with
    | .number (.int (.ofNat n)) =>
      if n ≤ limit then .ok n
      else
        .error (.mismatch ("invalid value: integer `" ++ intNumeral n ++ "`, expected " ++ wanted))
    | .number (.int (.negSucc n)) =>
      .error (.mismatch
        ("invalid value: integer `" ++ intNumeral (.negSucc n) ++ "`, expected " ++ wanted))
    | d => .error (d.unlike wanted)
  write n := .nat n

/-- A thirty-two bit natural. -/
def u32 : Codec Nat := natural 4294967295 "u32"

/-- A sixteen bit natural. -/
def u16 : Codec Nat := natural 65535 "u16"

/-- A sixty-four bit natural. -/
def u64 : Codec Nat := natural maxInteger "u64"

/-- A size: a sixty-four bit natural under its own name. -/
def size : Codec Nat := natural maxInteger "usize"

/-- A number of the format `F`, from any JSON number. -/
def float (F : FloatFormat) (wanted : String) : Codec (Binary F) where
  read _ d :=
    match d with
    | .number (.int n) => .ok (.ofInt n)
    | .number (.float x) => .ok (x.convert F)
    | d => .error (d.unlike wanted)
  write x := .float (x.convert .double)

/-- A sixty-four bit floating-point number. -/
def double : Codec Double := float .double "f64"

/-- A thirty-two bit floating-point number, written by its exact value. -/
def single : Codec Single := float .single "f32"

/-- A sixty-four bit integer. -/
def i64 : Codec Int where
  read _ d :=
    match d with
    | .number (.int n) =>
      if -9223372036854775808 ≤ n ∧ n ≤ 9223372036854775807 then .ok n
      else .error (.mismatch ("invalid value: integer `" ++ intNumeral n ++ "`, expected i64"))
    | d => .error (d.unlike "i64")
  write n := .int n

/-- A thirty-two bit floating-point number, written by its shortest decimal. -/
def shortSingle : Codec Single where
  read := single.read
  write x :=
    if x.isZero || !x.isFinite then .float (x.convert .double)
    else .float (.ofRatio x.negative x.shortest.numerator x.shortest.denominator)

/-- A value that may be null or absent. -/
def option (c : Codec α) : Codec (Option α) where
  read source d :=
    match d with
    | .null => .ok none
    | d => (c.read source d).map some
  write
    | none => .null
    | some x => c.write x
  absent := some none

/-- The items of an array, in order. -/
def readItems (c : Codec α) (source : Source) : List Draft → Except Fault (List α)
  | [] => .ok []
  | d :: ds =>
    match c.read source d with
    | .error f => .error f
    | .ok x => (readItems c source ds).map (x :: ·)

/-- An array. -/
def list (c : Codec α) : Codec (List α) where
  read source d :=
    match d with
    | .array items =>
      match source.enter with
      | .error f => .error f
      | .ok inner => c.readItems inner items
    | d => .error (d.unlike "a sequence")
  write xs := .array (xs.map c.write)

/-- The members of an object entered into a table, in order. -/
def readMembers (c : Codec α) (source : Source) (acc : Table α) :
    List (Draft.Key × Draft) → Except Fault (Table α)
  | [] => .ok acc
  | (.unreadable f, _) :: _ => .error f
  | (.text k, d) :: ms =>
    match c.read source d with
    | .error f => .error f
    | .ok x => readMembers c source (acc.insert k x) ms

/-- An object with members of one type. -/
def table (c : Codec α) : Codec (Table α) where
  read source d :=
    match d with
    | .object members =>
      match source.enter with
      | .error f => .error f
      | .ok inner => c.readMembers inner [] members
    | d => .error (d.unlike "a map")
  write t := .object (t.mapValues c.write)

/-- An object with any members. -/
def object : Codec Object := table json

/-! ## Enumerations -/

/-- The words of an enumeration as a message lists them. -/
def wordList (words : List String) : String :=
  let quoted := words.map fun w => "`" ++ w ++ "`"
  match quoted with
  | [] => ""
  | [a] => a
  | [a, b] => a ++ " or " ++ b
  | ws => "one of " ++ String.intercalate ", " ws

/-- The fault of a word that is not of the enumeration. -/
def unknownWord (word : String) (words : List String) : Fault :=
  .mismatch ("unknown variant `" ++ word ++ "`, expected " ++ wordList words)

/-- The value named by a word. -/
def ofWord (entries : List (String × α)) (word : String) : Except Fault α :=
  match entries.lookup word with
  | some x => .ok x
  | none => .error (unknownWord word (entries.map Prod.fst))

/-- The payload of an enumeration's value written as an object: it has to be null, or empty where
there is no null. -/
def readUnit (source : Source) (d : Draft) : Except Fault Unit :=
  match source, d with
  | _, .null => .ok ()
  | .buffered, .object [] => .ok ()
  | .settings, .object [] => .ok ()
  | .settings, .array [] => .ok ()
  | _, d => .error (d.unlike "unit")

/-- An enumeration's value written as an object with one member, in a text: the word, a null, and
nothing else. -/
def readWordMember (entries : List (String × α)) (source : Source) :
    List (Draft.Key × Draft) → Except Fault α
  | [] => .error .noValue
  | (.unreadable f, _) :: _ => .error f
  | (.text k, d) :: rest => do
    let x ← ofWord entries k
    readUnit source d
    match rest with
    | [] => .ok x
    | (.unreadable .endInObject, _) :: _ => .error .endInObject
    | _ => .error .noValue

/-- **An enumeration.**  Its values are words; an object with the word as its one key and null
under it means the same. -/
def words (entries : List (String × α)) (word : α → String) : Codec α where
  read source d :=
    match source, d with
    | _, .text w => ofWord entries w
    | .text _, .object members => do readWordMember entries (← source.enter) members
    | .text _, .unreadable f => .error (if f = .outOfRange then .noValue else f)
    | .text _, .broken halt => .error halt.choosing
    | .text _, _ => .error .noValue
    | _, .object [(.text k, d)] => do
      let x ← ofWord entries k
      readUnit source d
      return x
    | _, .object _ => .error (.mismatch "invalid value: map, expected map with a single key")
    | _, d => .error (d.unlike "string or map")
  write x := .text (word x)

end Codec

/-! ## Records -/

/-- One field of a record: its name, its codec, the value it has when an object leaves it out and
when an array is too short to hold it, and whether it is written. -/
structure Field (α : Type) where
  name : String
  codec : Codec α
  ifAbsent : Option α
  ifShort : Option α
  written : α → Bool

namespace Field

variable {α : Type}

/-- A field that has to be given, unless its type has a value for an absent field. -/
def required (name : String) (c : Codec α) : Field α :=
  ⟨name, c, c.absent, none, fun _ => true⟩

/-- A field with a value to fall back on. -/
def defaulted (name : String) (c : Codec α) (fallback : α) : Field α :=
  ⟨name, c, some fallback, some fallback, fun _ => true⟩

/-- A field that may be missing and is left out when it is. -/
def optional (name : String) (c : Codec α) : Field (Option α) :=
  ⟨name, c.option, some none, some none, Option.isSome⟩

/-- A field that may be missing from an object but not from an array, and is left out when it
is. -/
def omissible (name : String) (c : Codec α) : Field (Option α) :=
  ⟨name, c.option, some none, none, Option.isSome⟩

/-- The same field, written only when `keep` holds. -/
def writtenWhen (f : Field α) (keep : α → Bool) : Field α := { f with written := keep }

end Field

/-- The fields of a record in their order.  `σ` holds what was met so far, `α` is the tuple of
all fields.

* `offer` takes a member whose key is a field's name;
* `finish` fills in the absent fields;
* `ordered` reads the fields from an array, starting at a position;
* `write` lists the written members. -/
structure Fields (σ α : Type) where
  size : Nat
  blank : σ
  offer : Source → String → Draft → σ → Option (Except Fault σ)
  finish : σ → Except Fault α
  ordered : Source → (tooShort : Nat → Fault) → (position : Nat) → List Draft →
    Except Fault (α × List Draft)
  write : α → List (String × Json)

namespace Fields

variable {α β σ : Type}

/-- No field. -/
def done : Fields Unit Unit where
  size := 0
  blank := ()
  offer _ _ _ _ := none
  finish _ := .ok ()
  ordered _ _ _ ds := .ok ((), ds)
  write _ := []

/-- A field in front of others.  A field met twice is a fault. -/
def cons (f : Field β) (rest : Fields σ α) : Fields (Option β × σ) (β × α) where
  size := rest.size + 1
  blank := (none, rest.blank)
  offer source key d slots :=
    if key = f.name then
      some <| match slots.1 with
        | some _ => .error (.mismatch ("duplicate field `" ++ f.name ++ "`"))
        | none => (f.codec.read source d).map fun x => (some x, slots.2)
    else (rest.offer source key d slots.2).map fun r => r.map fun s => (slots.1, s)
  finish slots :=
    match slots.1.or f.ifAbsent with
    | some x => (rest.finish slots.2).map fun xs => (x, xs)
    | none => .error (.mismatch ("missing field `" ++ f.name ++ "`"))
  ordered source tooShort position ds :=
    match ds with
    | [] =>
      match f.ifShort with
      | none => .error (tooShort position)
      | some x =>
        (rest.ordered source tooShort (position + 1) []).map fun r => ((x, r.1), r.2)
    | d :: ds =>
      match f.codec.read source d with
      | .error e => .error e
      | .ok x =>
        (rest.ordered source tooShort (position + 1) ds).map fun r => ((x, r.1), r.2)
  write xs :=
    if f.written xs.1 then (f.name, f.codec.write xs.1) :: rest.write xs.2 else rest.write xs.2

/-- A field that has to be given. -/
def required (name : String) (c : Codec β) (rest : Fields σ α) :
    Fields (Option β × σ) (β × α) := rest.cons (.required name c)

/-- A field with a value to fall back on. -/
def defaulted (name : String) (c : Codec β) (fallback : β) (rest : Fields σ α) :
    Fields (Option β × σ) (β × α) := rest.cons (.defaulted name c fallback)

/-- A field that may be missing and is left out when it is. -/
def optional (name : String) (c : Codec β) (rest : Fields σ α) :
    Fields (Option (Option β) × σ) (Option β × α) := rest.cons (.optional name c)

/-- The members of an object offered to the fields, in order; the others are skipped. -/
def collect (fs : Fields σ α) (source : Source) (slots : σ) :
    List (Draft.Key × Draft) → Except Fault σ
  | [] => .ok slots
  | (.unreadable f, _) :: _ => .error f
  | (.text k, d) :: ms =>
    match fs.offer source k d slots with
    | some (.ok slots) => fs.collect source slots ms
    | some (.error f) => .error f
    | none =>
      match d.skipFault? with
      | some f => .error f
      | none => fs.collect source slots ms

/-- The fault of items behind the last one wanted: in a text, what stands there; in settings they
do not matter. -/
def leftover (source : Source) (size taken : Nat) : List Draft → Option Fault
  | [] => none
  | rest@(d :: _) =>
    match source with
    | .text _ => some <|
      match d with
      | .broken halt =>
        if halt.reading = .endInArray || halt.reading = .trailingComma then halt.reading
        else .trailingCharacters
      | _ => .trailingCharacters
    | .value => some <| .mismatch
        ("invalid length " ++ toString size ++ ", expected fewer elements in array")
    | .buffered => some <| .mismatch
        ("invalid length " ++ toString (taken + rest.length) ++ ", expected " ++ toString taken ++
          (if taken = 1 then " element in sequence" else " elements in sequence"))
    | .settings => none

/-- The fields of an object or an array.  `expecting` is what messages call the record. -/
def read (fs : Fields σ α) (expecting : String) (source : Source) (d : Draft) :
    Except Fault α :=
  match d with
  | .object members => do
    let inner ← source.enter
    fs.finish (← fs.collect inner fs.blank members)
  | .array items => do
    let inner ← source.enter
    let tooShort (n : Nat) : Fault := .mismatch
      ("invalid length " ++ toString n ++ ", expected " ++ expecting ++ " with " ++
        toString fs.size ++ (if fs.size = 1 then " element" else " elements"))
    let (xs, rest) ← fs.ordered inner tooShort 0 items
    match leftover source items.length (items.length - rest.length) rest with
    | some f => .error f
    | none => .ok xs
  | d => .error (d.unlike expecting)

end Fields

namespace Codec

variable {α β σ : Type}

/-- **A record.**  It is read from an object, or from an array that lists its fields in order. -/
def record (expecting : String) (fs : Fields σ α) (make : α → β) (split : β → α) : Codec β where
  read source d := (fs.read expecting source d).map make
  write x := .object (Table.ofList (fs.write (split x)))

/-- A type that is read as another one and checked. -/
def refine (c : Codec α) (check : α → Except String β) (forget : β → α) : Codec β where
  read source d := do
    match check (← c.read source d) with
    | .ok x => .ok x
    | .error wording => .error (.mismatch wording)
  write x := c.write (forget x)

/-! ## Sums told apart by a member -/

/-- One case of a sum: its word, and how its members are read from a buffered draft. -/
structure Case (β : Type) where
  word : String
  read : Draft → Except Fault β

/-- A case without members of its own: whatever else the object holds is ignored. -/
def Case.bare (word : String) (x : β) : Case β := ⟨word, fun _ => .ok x⟩

/-- A case with the fields of a record. -/
def Case.ofFields (word expecting : String) (fs : Fields σ α) (make : α → β) : Case β :=
  ⟨word, fun d => (fs.read expecting .buffered d).map make⟩

/-- The word of the case, from the member that tells. -/
def readTag (cases : List (Case β)) (d : Draft) : Except Fault (Case β) :=
  match d with
  | .text w => ofWord (cases.map fun c => (c.word, c)) w
  | d => .error (d.unlike "variant identifier")

/-- The members of an object, the telling one apart and the others in their order. -/
def splitTag (tag : String) (cases : List (Case β)) (source : Source)
    (found : Option (Case β)) (others : List (Draft.Key × Draft)) :
    List (Draft.Key × Draft) → Except Fault (Case β × List (Draft.Key × Draft))
  | [] =>
    match found with
    | some c => .ok (c, others.reverse)
    | none => .error (.mismatch ("missing field `" ++ tag ++ "`"))
  | (.unreadable f, _) :: _ => .error f
  | (.text k, d) :: ms =>
    if k = tag then
      if found.isSome then .error (.mismatch ("duplicate field `" ++ tag ++ "`"))
      else
        match readTag cases d with
        | .error f => .error f
        | .ok c => splitTag tag cases source (some c) others ms
    else
      match d.fault? source with
      | some f => .error f
      | none => splitTag tag cases source found ((.text k, d) :: others) ms

/-- **A sum whose cases are told apart by the member `tag`.**  The other members are buffered
until it is known. -/
def tagged (tag expecting : String) (cases : List (Case β)) (write : β → Json) : Codec β where
  read source d :=
    match d with
    | .object members => do
      let inner ← source.enter
      let (c, others) ← splitTag tag cases inner none [] members
      c.read (.object others)
    | .array items => do
      let inner ← source.enter
      match items with
      | [] => .error (.mismatch ("missing field `" ++ tag ++ "`"))
      | d :: rest =>
        let c ← readTag cases d
        match Draft.faultItems? inner rest with
        | some f => .error f
        | none => c.read (.array rest)
    | d => .error (d.unlike ("internally tagged enum " ++ expecting))
  write := write

/-- The members of a case, its word first. -/
def taggedJson (tag word : String) (fs : Fields σ α) (x : α) : Json :=
  .object (Table.ofList ((tag, .text word) :: fs.write x))

/-! ## Whole texts and values -/

/-- Decodes a whole text, or tells the first fault. -/
def decode (c : Codec α) (source : String) : Except Fault α :=
  let document := Document.read source
  match c.read .start document.draft with
  | .error f => .error f
  | .ok x => if document.trailing then .error .trailingCharacters else .ok x

/-- Decodes a whole text. -/
def ofText (c : Codec α) (source : String) : Except String α :=
  (c.decode source).mapError Fault.message

/-- Decodes a value. -/
def ofJson (c : Codec α) (v : Json) : Except String α :=
  match c.read .value (Draft.ofJson v) with
  | .error f => .error f.message
  | .ok x => .ok x

/-- Decodes a settings document. -/
def ofSettings (c : Codec α) (d : Draft) : Except String α :=
  (c.read .settings d).mapError Fault.message

end Codec

/-- The value of a text. -/
def parse (source : String) : Except String Json := Codec.json.ofText source

/-- The value of a text, if it is JSON. -/
def parse? (source : String) : Option Json := (parse source).toOption

end Blockflow.Json
