import Blockflow.Activity
import Blockflow.Http.MediaType
import Blockflow.Http.Url
import Blockflow.Json.Codec

/-!
# Sending requests

A request is drafted from texts that may not do: an address, a method, headers.  Drafts that do
are sent; the others fail with the wording of requests that cannot be built.

* `Http.method?` — methods.
* `RequestDraft`, `RequestDraft.build` — a draft, and the request it makes.
* **`Http.send`** — the exchange of a drafted request.
* `Http.Response.text?` — the text of an answer's body.
-/

namespace Blockflow.Http

/-- Letters beyond ASCII whose capitals are in ASCII. -/
def asciiCapitals : List (Char × List Char) :=
  [('ß', ['S', 'S']), ('ı', ['I']), ('ſ', ['S']), ('ﬀ', ['F', 'F']), ('ﬁ', ['F', 'I']),
   ('ﬂ', ['F', 'L']), ('ﬃ', ['F', 'F', 'I']), ('ﬄ', ['F', 'F', 'L']), ('ﬅ', ['S', 'T']),
   ('ﬆ', ['S', 'T'])]

/-- The capitals of a character that has ASCII ones. -/
def capitals (c : Char) : List Char := (asciiCapitals.lookup c).getD [c.toUpper]

/-- The method of a text, in capitals. -/
def method? (s : String) : Option String :=
  let cs := s.toList.flatMap capitals
  if cs.isEmpty || cs.any (fun c => !isTokenChar c) then none else some (String.ofList cs)

/-- The wording of a method that is none. -/
def methodText : String := "invalid HTTP method"

/-- A request before its texts are checked. -/
structure RequestDraft where
  method : String
  url : String
  /-- Fields to add to the query of the address; no fields at all drop an empty query. -/
  query : Option (List (String × String)) := none
  headers : List (String × String) := []
  body : Option String := none
  deriving DecidableEq, Repr, Inhabited

namespace RequestDraft

/-- Whether a header's name and value may be sent. -/
def isHeader (h : String × String) : Bool :=
  !h.1.isEmpty && h.1.utf8ByteSize ≤ 65535 && h.1.toList.all isTokenChar &&
    h.2.toList.all fun c => c = '\t' || (32 ≤ c.toNat && c.toNat ≠ 127)

/-- Whether requests can be sent to an address: by HTTP, to a host whose name needs no quotes, and
if it is not too long. -/
def isReachable (u : Url) : Bool :=
  (u.scheme = "http" || u.scheme = "https") && u.render.utf8ByteSize ≤ 65534 &&
    match u.host with
    | some (.name s) => s.toList.all fun c => !(['"', '\x60', '\x7b', '\x7d'].contains c)
    | _ => true

/-- The draft with one more header. -/
def withHeader (d : RequestDraft) (name value : String) : RequestDraft :=
  { d with headers := d.headers ++ [(name, value)] }

/-- The draft with a text as its body. -/
def withText (d : RequestDraft) (body : String) : RequestDraft :=
  { d.withHeader "Content-Type" "text/plain" with body := some body }

/-- The draft with a value as its body, declared as JSON unless it is declared otherwise. -/
def withJson (d : RequestDraft) (body : Json) : RequestDraft :=
  let declared := d.headers.any fun h => h.1.toList.map Char.toLower = "content-type".toList
  let d := if declared then d else d.withHeader "Content-Type" "application/json"
  { d with body := some body.compact }

/-- **The request a draft makes**, or the wording of its flaw.  The address comes first, then the
headers, and last whether the address is one that requests can be sent to. -/
def build (d : RequestDraft) : Except String Request :=
  match Url.parse? d.url with
  | none => .error builderText
  | some target =>
    let refused (u : Url) : Except String Request :=
      .error (builderText ++ " for url (" ++ u.render ++ ")")
    let target := if target.hasHost then target.withoutUser else target
    let url := (d.query.map target.addQuery).getD target
    if !target.hasHost then refused target
    else if !d.headers.all isHeader then .error builderText
    else if !isReachable url then refused url
    else
      .ok { method := d.method
            url := url.render
            headers := d.headers.map fun h => (h.1.map Char.toLower, h.2)
            body := d.body }

end RequestDraft

/-- **Sends a drafted request**: the answer, or the wording of the failure. -/
def send (d : RequestDraft) : Activity (Except String Response) :=
  match d.build with
  | .error wording => pure (.error wording)
  | .ok request => do
    match ← Activity.exchange request with
    | .answered response => return .ok response
    | .unreachable => return .error (unreachableText request.url)

/-- The text of an answer's body, if it arrived whole; a mark of the byte order is no part of
it. -/
def Response.text? (r : Response) : Option String :=
  if r.short then none
  else
    match (Utf8.decode r.body).toList with
    | '\uFEFF' :: cs => some (String.ofList cs)
    | cs => some (String.ofList cs)

end Blockflow.Http
