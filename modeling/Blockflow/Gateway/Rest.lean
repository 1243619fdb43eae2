import Blockflow.Gateway.Service
import Blockflow.Http.Send

/-!
# Requests over HTTP

The gateway answers three addresses: its health, an agent to be run, and the live connection.  A
request to run an agent is looked at in a fixed order, and the first thing wrong with it decides
the answer: the address, the method, the caller, the agent's name, the kind, the size and the
wording of the body, and last what speaks against the run itself.

* `Rest.Route` — the addresses.
* `Rest.isJson` — bodies that claim to be JSON.
* `Rest.runBody` — the body of a request to run an agent.
* `Rest.Answer`, `Rest.refusal` — answers.
* **`Gateway.respond`** — the answer to a request, and what it leaves behind.
-/

namespace Blockflow

namespace Rest

/-! ## Answers -/

/-- An answer: a status, and a body where the gateway itself words it. -/
structure Answer where
  status : Nat
  body : Option Json := none
  deriving BEq, Repr, Inhabited

/-- The status for an error that keeps a run from starting. -/
def statusOf (e : Error) : Nat :=
  match e with
  | .agentNotFound _ => 404
  | e =>
    match e.kind with
    | .validation | .unknownBlockType => 422
    | .limiter => 429
    | _ => 500

/-- The answer to a request for a run that may not start. -/
def refusal (e : Error) : Answer :=
  { status := statusOf e
    body := some <| .object <| Table.ofList
      [("error", .text e.message), ("kind", .text e.kind.word)] }

/-! ## Addresses -/

/-- What an address is of. -/
inductive Route where
  | health
  | live
  | execute (agent : List Char)
  deriving DecidableEq, Repr

/-- The path of an address. -/
def path (url : String) : List Char := url.toList.takeWhile fun c => c ≠ '?' && c ≠ '#'

/-- The query of an address. -/
def query (url : String) : Option String :=
  match (url.toList.takeWhile (· ≠ '#')).dropWhile (· ≠ '?') with
  | _ :: rest => some (String.ofList rest)
  | [] => none

/-- What a path leads to. -/
def route? (path : List Char) : Option Route :=
  match path.splitOn '/' with
  | [[], root, leaf] =>
    if root = "api".toList && leaf = "health".toList then some .health
    else if root = "ws".toList && leaf = "workflow".toList then some .live
    else none
  | [[], root, branch, agent, leaf] =>
    if root = "api".toList && branch = "agents".toList && leaf = "execute".toList then
      some (.execute agent)
    else none
  | _ => none

/-- Whether an address can be asked this way. -/
def Route.allows : Route → String → Bool
  | .execute _, method => method = "POST"
  | _, method => method = "GET" || method = "HEAD"

/-! ## Headers -/

/-- The value of a header. -/
def header? (request : Http.Request) (name : String) : Option String :=
  (request.headers.find? fun h => h.1.toList.map Char.toLower = name.toList).map Prod.snd

/-- The value of a header in small letters. -/
def lowerHeader (request : Http.Request) (name : String) : List Char :=
  ((header? request name).getD "").toList.map Char.toLower

/-- Whether a word is in a text. -/
def isWithin (word : List Char) : List Char → Bool
  | [] => word.isEmpty
  | c :: cs => word.isPrefixOf (c :: cs) || isWithin word cs

/-- Whether a request asks for a change to the live protocol. -/
def asksForLive (request : Http.Request) : Bool :=
  isWithin "upgrade".toList (lowerHeader request "connection") &&
    lowerHeader request "upgrade" = "websocket".toList &&
    lowerHeader request "sec-websocket-version" = "13".toList &&
    (header? request "sec-websocket-key").isSome

/-! ## Bodies -/

/-- Whether a header declares a body to be JSON. -/
def isJson (declared : String) : Bool := (MediaType.parse? declared).any MediaType.isJson

/-- The members of a request to run an agent. -/
abbrev runFields :=
  Json.Fields.defaulted "input" Json.Codec.object [] <|
    .defaulted "enable_block_checker" .bool false <|
    .optional "checker_model_id" .text .done

/-- The body of a request to run an agent, still without the agent and the caller. -/
def runBody : Json.Codec RunRequest :=
  .record "struct RunBody" runFields
    (fun (input, enableBlockChecker, checkerModelId, ()) =>
      { agentId := "", userId := "", input, enableBlockChecker, checkerModelId })
    fun r => (r.input, r.enableBlockChecker, r.checkerModelId, ())

/-- The status for a body with a fault: a value of the wrong kind, or no JSON at all. -/
def faultStatus : Json.Fault → Nat
  | .mismatch _ => 422
  | _ => 400

/-- Whether a body is longer than two mebibytes. -/
def isTooLong (body : String) : Bool := 2097152 < body.utf8ByteSize

end Rest

namespace Gateway

open Rest

/-- The gateway's version. -/
def version : String := "0.3.0"

/-- The answer of a gateway that is up. -/
def health : Answer :=
  { status := 200
    body := some (.object (Table.ofList [("status", .text "ok"), ("version", .text version)])) }

/-- The caller of a request. -/
def caller? (g : Gateway) (request : Http.Request) : Option Identity :=
  Access.identify g.apiKeys (Access.bearerToken? (header? request "authorization"))
    (Access.queryToken? (query request.url))

/-- The run that a caller's request asks for, or the status it is turned away with. -/
def runRequest (caller : Identity) (agent : List Char) (request : Http.Request) :
    Except Nat RunRequest :=
  match Percent.text? agent, (header? request "content-type").filter isJson with
  | none, _ => .error 400
  | some _, none => .error 415
  | some agentId, some _ =>
    let body := request.body.getD ""
    if isTooLong body then .error 413
    else
      match runBody.decode body with
      | .error f => .error (faultStatus f)
      | .ok r => .ok { r with agentId, userId := caller.userId }

/-- **The answer to a request**, with the state and the world it leaves. -/
def respond (g : Gateway) (s : GatewayState) (o : Outages) (world : World)
    (request : Http.Request) : GatewayState × World × Answer :=
  let only (status : Nat) : GatewayState × World × Answer := (s, world, { status })
  if request.method = "OPTIONS" then only 200
  else
    match route? (path request.url) with
    | none => only 404
    | some route =>
      if !route.allows request.method then only 405
      else
        match route, g.caller? request with
        | .health, _ => (s, world, if request.method = "GET" then health else { status := 200 })
        | _, none => only 401
        | .live, some _ =>
          if request.method ≠ "GET" then only 405
          else only (if asksForLive request then 426 else 400)
        | .execute agent, some caller =>
          match runRequest caller agent request with
          | .error status => only status
          | .ok run =>
            match g.serve s o world run with
            | (s, world, .error e) => (s, world, refusal e)
            | (s, world, .ok done) =>
              (s, world,
                { status := 200, body := some (ExecutionResponse.codec.write done.response) })

end Gateway

end Blockflow
