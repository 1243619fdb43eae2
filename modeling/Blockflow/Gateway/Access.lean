import Blockflow.Settings.Basic

/-!
# Who is calling

A gateway without keys is open to everybody.  With keys, a caller presents one as a bearer token
or in the query of the address, and is the user whom the first such key names.

* `Identity` — a caller.
* `Access.bearerToken?`, `Access.queryToken?` — where a token is presented.
* **`Access.identify`** — the caller behind a token.
-/

namespace Blockflow

/-- A caller: the key that was presented, and the user whose it is. -/
structure Identity where
  keyName : String
  userId : String
  deriving DecidableEq, Repr, Inhabited

namespace Access

/-- The caller of an open gateway. -/
def anonymous : Identity := ⟨"anonymous", "anonymous"⟩

/-- What is behind the beginning of a text. -/
def behind? (start s : String) : Option String :=
  if start.toList.isPrefixOf s.toList then
    some (String.ofList (s.toList.drop start.toList.length))
  else none

/-- Whether a header's value is plain text. -/
def isVisible (value : String) : Bool :=
  value.toList.all fun c => c = '\t' || (32 ≤ c.toNat && c.toNat < 127)

/-- The token of an authorization header. -/
def bearerToken? (header : Option String) : Option String := do
  behind? "Bearer " (← header.filter isVisible)

/-- The token in the query of an address: the first field of that name. -/
def queryToken? (query : Option String) : Option String :=
  ((query.getD "").toList.splitOn '&').findSome? fun field =>
    behind? "token=" (String.ofList field)

/-- **The caller behind a token.**  The bearer token counts if both are presented. -/
def identify (keys : List ApiKeyConfig) (bearer query : Option String) : Option Identity :=
  if keys.isEmpty then some anonymous
  else do
    let presented ← bearer.or query
    let key ← keys.find? fun k => k.key = presented
    return ⟨key.name, key.userId⟩

end Access

end Blockflow
