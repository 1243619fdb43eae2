import Blockflow.Settings.Basic

/-!
# Credentials

A tool that reaches an outside service needs a credential of the user it works for.  Where
credentials come from varies; that a run can ask for one by user and integration does not.

* `Credential` — a named secret for one integration; `Credential.described` shows everything but
  the secret values.
* `Credentials` — a source of credentials: given ones, ones from the settings, one that is out of
  order, or any other one.
* **`Credentials.resolve`** — the look-up.
-/

namespace Blockflow

open Json

/-- A secret for one integration. -/
structure Credential where
  integrationType : String
  name : String := ""
  data : Json.Object := []
  deriving BEq, Repr, Inhabited

namespace Credential

/-- Credentials as JSON. -/
def codec : Codec Credential :=
  .record "struct Credential"
    (.required "integration_type" .text <|
      .defaulted "name" .text "" <|
      .defaulted "data" .object [] .done)
    (fun (integrationType, name, data, ()) => ⟨integrationType, name, data⟩)
    (fun c => (c.integrationType, c.name, c.data, ()))

/-- The text stored under a key. -/
def get? (c : Credential) (key : String) : Option String :=
  (Table.get? c.data key).bind Json.asText?

/-- A description for diagnostics: the names of the stored fields, none of their values. -/
def described (c : Credential) : String :=
  "Credential \x7b integration_type: " ++ Text.shown c.integrationType ++ ", name: " ++
    Text.shown c.name ++ ", fields: [" ++
    String.intercalate ", " (c.data.map fun m => Text.shown m.1) ++ "] \x7d"

end Credential

/-- A credential of a user. -/
structure StoredCredential where
  userId : String
  credential : Credential
  deriving BEq, Repr, Inhabited

/-- A source of credentials: entries of which the first match counts, one that cannot be reached, or
one that answers for a user and an integration as it likes. -/
inductive Credentials where
  | stored (entries : List StoredCredential)
  | unavailable
  | answering (answer : String → String → Except Error (Option Credential))
  deriving Inhabited

namespace Credentials

/-- The source the settings describe. -/
def ofSettings (entries : List CredentialConfig) : Credentials :=
  .stored <| entries.map fun e => ⟨e.userId, ⟨e.integrationType, e.name, e.data⟩⟩

/-- **The credential of a user for an integration**, if there is one. -/
def resolve (c : Credentials) (userId integration : String) :
    Except Error (Option Credential) :=
  match c with
  | .unavailable => .error (.database "credential store unavailable")
  | .stored entries => .ok <| (entries.find? fun e =>
      e.userId = userId && e.credential.integrationType = integration).map (·.credential)
  | .answering answer => answer userId integration

end Credentials

end Blockflow
