import Blockflow.Tools.Webhook

/-!
# The tool for REST interfaces

Calls the interface that the user's credential describes: its base address, and a key that is
sent as a bearer token or under a header of its own.

* `ApiRequest.Input` — the tool's input.
* `ApiRequest.join` — a path below a base address.
* `ApiRequest.draft` — the request it makes.
* **`ApiRequest.tool`** — the tool, and `Toolbox.builtins`, the tools every deployment has.
-/

namespace Blockflow

namespace ApiRequest

/-- The tool's input. -/
structure Input where
  path : String := ""
  method : String := "GET"
  headers : Table String := []
  query : Table String := []
  body : Option Json := none
  deriving BEq, Repr, Inhabited

/-- Input as models write it. -/
def Input.codec : Json.Codec Input :=
  .record "struct ApiRequestInput"
    (.defaulted "path" .text "" <|
      .defaulted "method" .text "GET" <|
      .defaulted "headers" (.table .text) [] <|
      .defaulted "query" (.table .text) [] <|
      .defaulted "body" (.option .json) none .done)
    (fun (path, method, headers, query, body, ()) => ⟨path, method, headers, query, body⟩)
    (fun i => (i.path, i.method, i.headers, i.query, i.body, ()))

/-- A path below a base address, joined by one slash; an empty path adds nothing. -/
def join (base path : String) : String :=
  if path.isEmpty then base
  else
    let head := (base.toList.reverse.dropWhile (· = '/')).reverse
    String.ofList (head ++ '/' :: path.toList.dropWhile (· = '/'))

/-- The header that carries the interface's key. -/
def keyHeader? (c : Credential) : Option (String × String) :=
  (c.get? "api_key").map fun key =>
    match c.get? "auth_header" with
    | some name => (name, key)
    | none => ("Authorization", "Bearer " ++ key)

/-- The request of an input.  Fields go into the query from the last key to the first. -/
def draft (i : Input) (credential : Option Credential) : Except Error Http.RequestDraft := do
  let c ← match credential with
    | some c => pure c
    | none => throw (.toolValidation "api_request needs a rest_api credential")
  let base ← match c.get? "base_url" with
    | some base => pure base
    | none => throw (.toolValidation "rest_api credential has no base_url")
  let method ← methodFor i.method
  let d : Http.RequestDraft :=
    { method
      url := join base i.path
      query := some i.query.reverse
      headers := (keyHeader? c).toList ++ i.headers }
  return (i.body.map d.withJson).getD d

/-- The status and its phrase, if it has one. -/
def heading (r : Http.Response) : String :=
  "HTTP " ++ Json.intNumeral r.status ++ " " ++ (Http.reasons.lookup r.status).getD ""

/-- The tool at work. -/
def run (input : Json) (context : ToolContext) : Activity (Except Error ToolOutcome) :=
  match (Input.codec.ofJson input).mapError Error.toolValidation with
  | .error e => pure (.error e)
  | .ok i =>
    match draft i context.credential with
    | .error e => pure (.error e)
    | .ok d => sendFor "api_request" heading d

/-- The schema of the tool's input. -/
def schema : Json :=
  .object
    [("properties", .object
      [("body", Webhook.property none "JSON request body"),
        ("headers", Webhook.property (some "object") "Request headers"),
        ("method", Webhook.property (some "string") "HTTP method (default: GET)"),
        ("path", Webhook.property (some "string") "Path appended to the API base URL"),
        ("query", Webhook.property (some "object") "Query string parameters")]),
      ("type", .text "object")]

/-- **The tool for REST interfaces.** -/
def tool : Tool :=
  { definition :=
      { name := "api_request"
        description :=
          "Call the configured REST API. Returns the status line and response body."
        inputSchema := schema }
    timeoutSecs := 60
    run }

end ApiRequest

/-- The tools every deployment has. -/
def Toolbox.builtins : Toolbox :=
  Toolbox.register (Toolbox.register [] ApiRequest.tool) Webhook.tool

end Blockflow
