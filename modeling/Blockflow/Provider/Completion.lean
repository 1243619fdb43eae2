import Blockflow.Block.Basic
import Blockflow.Http.Send
import Blockflow.Provider.Wire

/-!
# Clients for chat completions

A client posts the conversation to the provider's address and reads the answer from the body of
the response.

* `Completion.endpoint` — the address of a provider.
* `Completion.draft` — the request of a call.
* `Completion.received` — what a response comes to.
* **`Completion.client`** — the client.
-/

namespace Blockflow.Completion

/-- Where requests go without an address of their own. -/
def defaultEndpoint : String := "https://api.openai.com/v1/chat/completions"

/-- The path of chat completions below a provider's base address. -/
def path : String := "/chat/completions"

/-- **The address of a provider**: given whole, or as a base to which the path is added. -/
def endpoint (base : String) : String :=
  let cs := (base.toList.reverse.dropWhile (· = '/')).reverse
  let whole := path.toList.isSuffixOf cs
  String.ofList (if whole then cs else cs ++ path.toList)

/-- The request of a call. -/
def draft (q : ModelRequest) : Http.RequestDraft :=
  let address := (q.config.baseUrl.map endpoint).getD defaultEndpoint
  let plain := ({ method := "POST", url := address : Http.RequestDraft }).withJson
    (completionBody q)
  match q.config.apiKey with
  | some key => plain.withHeader "Authorization" ("Bearer " ++ key)
  | none => plain

/-- The pieces of a response's body; one that broke off ends in a failure. -/
def pieces (r : Http.Response) : List EventStream.Piece :=
  .ok r.body :: if r.short then [.error Http.shortBodyText] else []

/-- What a response comes to: the stream of its body, or a failure that quotes it. -/
def received (r : Http.Response) : Except Error Stream :=
  if Http.isSuccess r.status then .ok (.ofPieces (pieces r))
  else .error (.llmRequest
    ("HTTP " ++ Http.statusText r.status ++ ": " ++ r.text?.getD "unknown"))

/-- **The client for chat completions.** -/
def client : ModelClient := fun q => do
  match ← Http.send (draft q) with
  | .error wording => return .error (.llmRequest wording)
  | .ok response => return received response

end Blockflow.Completion
