import Blockflow.Http.Send
import Blockflow.Tools.Basic

/-!
# The webhook tool

Sends a payload to the webhook that the user has configured, or to another one.  A text is sent
as it is, anything else as JSON.

* `Webhook.Input` — the tool's input.
* `Webhook.draft` — the request it makes.
* **`Webhook.tool`** — the tool.
-/

namespace Blockflow

/-- The most characters of a body that a tool hands back. -/
def bodyLimit : Nat := 10000

/-- The beginning of a body that a tool hands back; a body that broke off counts as empty. -/
def shownBody (r : Http.Response) : String :=
  String.ofList ((r.text?.getD "").toList.take bodyLimit)

/-- The outcome of a tool that got an answer: an error unless its status tells of success. -/
def ToolOutcome.ofResponse (heading : String) (r : Http.Response) : ToolOutcome :=
  { content := heading ++ "\n\n" ++ shownBody r, isError := !Http.isSuccess r.status }

/-- What a tool that sends a request comes to. -/
def sendFor (tool : String) (heading : Http.Response → String) (d : Http.RequestDraft) :
    Activity (Except Error ToolOutcome) := do
  match ← Http.send d with
  | .error wording => return .error (.toolExecution tool wording)
  | .ok r => return .ok (.ofResponse (heading r) r)

/-- The method of a tool's input. -/
def methodFor (text : String) : Except Error String :=
  match Http.method? text with
  | some m => .ok m
  | none => .error (.toolValidation ("Invalid method: " ++ Http.methodText))

namespace Webhook

/-- The tool's input. -/
structure Input where
  url : Option String := none
  body : Option Json := none
  method : String := "POST"
  headers : Table String := []
  deriving BEq, Repr, Inhabited

/-- Input as models write it. -/
def Input.codec : Json.Codec Input :=
  .record "struct WebhookInput"
    (.defaulted "url" (.option .text) none <|
      .defaulted "body" (.option .json) none <|
      .defaulted "method" .text "POST" <|
      .defaulted "headers" (.table .text) [] .done)
    (fun (url, body, method, headers, ()) => ⟨url, body, method, headers⟩)
    (fun i => (i.url, i.body, i.method, i.headers, ()))

/-- The webhook of an input: its own, or the configured one. -/
def target (i : Input) (credential : Option Credential) : Except Error String :=
  match i.url.or (credential.bind fun c => c.get? "webhook_url") with
  | some url => .ok url
  | none => .error (.toolValidation "no webhook url in input or credential")

/-- The request of an input, with the configured secret as its first header. -/
def draft (i : Input) (credential : Option Credential) : Except Error Http.RequestDraft := do
  let url ← target i credential
  let method ← methodFor i.method
  let secret := (credential.bind fun c => c.get? "secret").toList
  let d : Http.RequestDraft :=
    { method, url, headers := (secret.map fun s => ("X-Webhook-Secret", s)) ++ i.headers }
  return match i.body with
    | some (.text s) => d.withText s
    | some v => d.withJson v
    | none => d

/-- The tool at work. -/
def run (input : Json) (context : ToolContext) : Activity (Except Error ToolOutcome) :=
  match (Input.codec.ofJson input).mapError Error.toolValidation with
  | .error e => pure (.error e)
  | .ok i =>
    match draft i context.credential with
    | .error e => pure (.error e)
    | .ok d => sendFor "send_webhook" (fun r => "HTTP " ++ Json.intNumeral r.status) d

/-- A property of a schema. -/
def property (type : Option String) (description : String) : Json :=
  .object (("description", .text description) ::
    (type.toList.map fun t => ("type", Json.text t)))

/-- The schema of the tool's input. -/
def schema : Json :=
  .object
    [("properties", .object
      [("body", property none "Payload to send (string or JSON object)"),
        ("headers", property (some "object") "Extra request headers"),
        ("method", property (some "string") "HTTP method (default: POST)"),
        ("url", property (some "string") "Override the configured webhook URL")]),
      ("required", .array [.text "body"]), ("type", .text "object")]

/-- **The webhook tool.** -/
def tool : Tool :=
  { definition :=
      { name := "send_webhook"
        description :=
          "Send a payload to a webhook URL. Strings are sent as text, objects as JSON."
        inputSchema := schema }
    timeoutSecs := 30
    run }

end Webhook

end Blockflow
