import Blockflow.Http.Host

/-!
# Addresses

An address is read leniently and written in one canonical form: the scheme and the host in lower
case, the default number behind it left out, dot segments resolved, and whatever may not stand
in a part percent-encoded.

Schemes are of three kinds.  Known ones lead to a host, and take a backslash for a slash; files may
do without a host and know drive letters; all others have a host only behind two slashes, and
without any slash hold a plain text in place of a path.

* `Url.Kind` — the kinds of schemes.
* `Url.Path`, `Url`, `Url.render` — an address, and its canonical text.
* **`Url.parse?`** — reading an address.
* `Url.addQuery`, `Url.withoutUser` — an address with more fields in its query, and without the
  user it names.
-/

namespace Blockflow

/-- What stands between the host and the query: segments behind a slash each, or a text. -/
inductive Url.Path where
  | segments (names : List (List Char))
  | plain (text : List Char)
  deriving DecidableEq, Repr, Inhabited

/-- An address. -/
structure Url where
  scheme : String
  user : String := ""
  secret : String := ""
  host : Option Host := none
  portNumber : Option Nat := none
  path : Url.Path := .segments []
  query : Option String := none
  fragment : Option String := none
  deriving DecidableEq, Repr, Inhabited

namespace Url

/-! ## Writing -/

/-- The text of a path.  Without a host, two slashes at its front would be taken for those of a
host, so that a dot segment is put before them. -/
def pathText (hasHost : Bool) : Path → List Char
  | .plain cs => cs
  | .segments names =>
    let text := names.flatMap fun s => '/' :: s
    if !hasHost && names.head? = some [] && 1 < names.length then '/' :: '.' :: text else text

/-- The user before the host, if there is one. -/
def userText (u : Url) : String :=
  if u.user.isEmpty && u.secret.isEmpty then ""
  else u.user ++ (if u.secret.isEmpty then "" else ":" ++ u.secret) ++ "@"

/-- **The canonical text of an address.** -/
def render (u : Url) : String :=
  let host := u.host.elim "" fun h => "//" ++ u.userText ++ h.render ++
    ((u.portNumber.map fun p => ":" ++ Json.intNumeral p).getD "")
  u.scheme ++ ":" ++ host ++ String.ofList (pathText u.host.isSome u.path) ++
    ((u.query.map fun q => "?" ++ q).getD "") ++ ((u.fragment.map fun f => "#" ++ f).getD "")

/-- An address with more fields in its query; an empty query is dropped. -/
def addQuery (u : Url) (fields : List (String × String)) : Url :=
  let written := fields.map fun f =>
    String.ofList (Percent.form f.1 ++ '=' :: Percent.form f.2)
  let parts := (u.query.toList.filter fun q => !q.isEmpty) ++ written
  { u with query := if parts.isEmpty then none else some (String.intercalate "&" parts) }

/-- Whether an address leads to a host. -/
def hasHost (u : Url) : Bool := u.host.any Host.isPresent

/-- The user an address names, if the name can be read, and the secret, if that can be read. -/
def credentials? (u : Url) : Option (String × Option String) := do
  let user ← Percent.text? u.user.toList
  let secret := if u.secret.isEmpty then none else Percent.text? u.secret.toList
  if user.isEmpty && secret.isNone then none else return (user, secret)

/-- An address without the user it names; one that cannot be read stays. -/
def withoutUser (u : Url) : Url :=
  if u.credentials?.isSome then { u with user := "", secret := "" } else u

/-! ## Schemes -/

/-- The kinds of schemes. -/
inductive Kind where
  | known
  | file
  | other
  deriving DecidableEq, Repr

/-- The known schemes that lead to hosts, with the default numbers behind them. -/
def knownSchemes : List (String × Nat) :=
  [("http", 80), ("https", 443), ("ws", 80), ("wss", 443), ("ftp", 21)]

/-- The kind of a scheme. -/
def kindOf (scheme : String) : Kind :=
  if scheme = "file" then .file
  else if (knownSchemes.lookup scheme).isSome then .known
  else .other

/-- A text without blanks around it and without line breaks and tabs inside. -/
def tidy (cs : List Char) : List Char :=
  let isEdge (c : Char) : Bool := c.toNat ≤ 32
  let trimmed := ((cs.dropWhile isEdge).reverse.dropWhile isEdge).reverse
  trimmed.filter fun c => !(['\t', '\n', '\r'].contains c)

/-- Whether a character may stand in a scheme. -/
def isSchemeChar (c : Char) : Bool := c.isAlphanum || ['+', '-', '.'].contains c

/-- The scheme in lower case, and what follows its colon. -/
def scheme? (cs : List Char) : Option (String × List Char) :=
  match cs with
  | [] => none
  | c :: _ =>
    match cs.dropWhile isSchemeChar with
    | ':' :: rest =>
      if c.isAlpha then
        some (String.ofList ((cs.takeWhile isSchemeChar).map Char.toLower), rest)
      else none
    | _ => none

/-- What stands before the first character of a kind, and the rest from there. -/
def upTo (stop : Char → Bool) (cs : List Char) : List Char × List Char :=
  (cs.takeWhile fun c => !stop c, cs.dropWhile fun c => !stop c)

/-! ## Paths -/

/-- Whether a character parts the segments of a path. -/
def Kind.isSlash (kind : Kind) (c : Char) : Bool := c = '/' || (c = '\\' && kind ≠ .other)

/-- What a segment of a path means: the directory itself, the one above, or a name. -/
def isDot (segment : List Char) : Bool :=
  [".", "%2e"].contains (String.ofList (segment.map Char.toLower))

/-- Whether a segment leads to the directory above. -/
def isDoubleDot (segment : List Char) : Bool :=
  ["..", "%2e%2e", ".%2e", "%2e."].contains (String.ofList (segment.map Char.toLower))

/-- The letter of a drive, in a segment that names one. -/
def drive? : List Char → Option Char
  | [c, mark] => if c.isAlpha && (mark = ':' || mark = '|') then some c else none
  | _ => none

/-- The path above a path; a drive has nothing above it. -/
def parent (kind : Kind) (done : List (List Char)) : List (List Char) :=
  match kind, done with
  | .file, [[c, ':']] => if c.isAlpha then done else []
  | _, done => done.dropLast

/-- A name behind a path; a drive at the front of a file's path is written with a colon. -/
def child (kind : Kind) (done : List (List Char)) (name : List Char) : List (List Char) :=
  match kind, done, drive? name with
  | .file, [], some c => [[c, ':']]
  | _, done, _ => done ++ [name]

/-- The segments of a path with dot segments resolved; a dot segment at the end leaves an empty
name. -/
def resolveDots (kind : Kind) (done : List (List Char)) : List (List Char) → List (List Char)
  | [] => done
  | s :: rest =>
    if isDoubleDot s then
      resolveDots kind (parent kind done ++ if rest.isEmpty then [[]] else []) rest
    else if isDot s then resolveDots kind (done ++ if rest.isEmpty then [[]] else []) rest
    else resolveDots kind (child kind done s) rest

/-- The segments of a path, parted by slashes; a first slash is expected and may be missing. -/
def segments (kind : Kind) (cs : List Char) : List (List Char) :=
  let slashes := cs.map fun c => if kind.isSlash c then '/' else c
  let body := match slashes with
    | '/' :: rest => rest
    | rest => rest
  resolveDots kind [] ((body.splitOn '/').map (Percent.encode Percent.pathSet))

/-- The path of a file has no empty names at its front. -/
def filePath (names : List (List Char)) : List (List Char) :=
  match names.dropWhile List.isEmpty with
  | [] => [[]]
  | names => names

/-! ## Users and hosts -/

/-- Whether a character ends the host and what belongs to it. -/
def Kind.endsAuthority (kind : Kind) (c : Char) : Bool :=
  kind.isSlash c || c = '?' || c = '#'

/-- The user and the secret before the last at sign, if there is one, and the text behind it. -/
def splitUser (cs : List Char) : Option (List Char) × List Char :=
  match cs.reverse.dropWhile (· ≠ '@') with
  | [] => (none, cs)
  | _ :: user => (some user.reverse, (cs.reverse.takeWhile (· ≠ '@')).reverse)

/-- The text of a host and what stands from its colon on; colons between brackets belong to the
host. -/
def splitHost (inside : Bool) : List Char → List Char × List Char
  | [] => ([], [])
  | c :: rest =>
    if c = ':' && !inside then ([], c :: rest)
    else
      let (host, rest) := splitHost (if c = '[' then true else if c = ']' then false else inside) rest
      (c :: host, rest)

/-- The number behind a host, if one is given and is not the default one. -/
def portNumber? (default : Option Nat) (cs : List Char) : Option (Option Nat) :=
  if cs.all Char.isDigit then
    let n := cs.foldl (fun n c => n * 10 + (c.toNat - 48)) 0
    if 65535 < n then none
    else if cs.isEmpty || some n = default then some none else some (some n)
  else none

/-! ## Reading -/

/-- Query and fragment, as they follow the path. -/
def withTail (kind : Kind) (u : Url) (cs : List Char) : Url :=
  let (before, fragment) := upTo (· = '#') cs
  let query := match before with
    | '?' :: q => some (String.ofList (Percent.encode (Percent.querySet (kind ≠ .other)) q))
    | _ => none
  { u with
    query
    fragment := match fragment with
      | _ :: f => some (String.ofList (Percent.encode Percent.fragmentSet f))
      | [] => none }

/-- Whether a character ends a path. -/
def endsPath (c : Char) : Bool := c = '?' || c = '#'

/-- What follows the two slashes before a host. -/
def ofAuthority? (scheme : String) (kind : Kind) (cs : List Char) : Option Url := do
  let (authority, rest) := upTo kind.endsAuthority cs
  let (userText, located) := splitUser authority
  guard (!(userText = some [] && located.isEmpty && !rest.isEmpty))
  let (user, secret) := upTo (· = ':') (userText.getD [])
  let encoded (cs : List Char) : String := String.ofList (Percent.encode Percent.userSet cs)
  let user := encoded user
  let secret := encoded (secret.drop 1)
  let (hostText, numbered) := splitHost false located
  guard (!(hostText.isEmpty && (kind = .known || !numbered.isEmpty)))
  let host ← if kind = .known then Host.ofDomain? hostText else Host.ofName? hostText
  guard (host.isPresent || (user.isEmpty && secret.isEmpty))
  let (digits, rest) := match upTo (· = '\\') (numbered.drop 1) with
    | (digits, back) => (digits, back ++ rest)
  let portNumber ← portNumber? (knownSchemes.lookup scheme) digits
  let (path, rest) := upTo endsPath rest
  let names := if kind = .other && path.isEmpty then [] else segments kind path
  return withTail kind
    { scheme, user, secret, host := some host, portNumber, path := .segments names } rest

/-- The host of a file: none stands for this machine. -/
def fileHost? (cs : List Char) : Option Host :=
  if cs.isEmpty then some (.name "")
  else (Host.ofDomain? cs).map fun h => if h = .name "localhost" then .name "" else h

/-- What follows the colon of the address of a file.  A host before a drive is dropped. -/
def ofFile? (cs : List Char) : Option Url := do
  let (hostText, rest) := match cs with
    | a :: b :: rest =>
      if Kind.file.isSlash a && Kind.file.isSlash b then
        let (host, behind) := upTo Kind.file.endsAuthority rest
        if (drive? host).isSome then ([], rest) else (host, behind)
      else ([], cs)
    | _ => ([], cs)
  let host ← fileHost? hostText
  let (path, rest) := upTo endsPath rest
  let names := segments .file path
  let isDrive := (names.head?.bind drive?).isSome
  return withTail .file
    { scheme := "file", host := some (if isDrive then .name "" else host),
      path := .segments (filePath names) } rest

/-- What follows the colon of the address of another scheme. -/
def ofOther? (scheme : String) (cs : List Char) : Option Url :=
  match cs with
  | '/' :: '/' :: rest => ofAuthority? scheme .other rest
  | cs =>
    let (path, rest) := upTo endsPath cs
    let path := match path with
      | '/' :: _ => .segments (segments .other path)
      | text => .plain (Percent.encode Percent.controlSet text)
    some (withTail .other { scheme, path } rest)

/-- **Reads an address.** -/
def parse? (s : String) : Option Url := do
  let (scheme, rest) ← scheme? (tidy s.toList)
  match kindOf scheme with
  | .known => ofAuthority? scheme .known (rest.dropWhile Kind.known.isSlash)
  | .file => ofFile? rest
  | .other => ofOther? scheme rest

end Url

end Blockflow
