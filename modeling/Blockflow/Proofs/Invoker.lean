import Blockflow.Proofs.Activity.Paths
import Blockflow.Tools.Invoker

/-!
# What an invoked tool gets and does

A tool that needs a credential gets what the source of credentials holds for the user it works for,
and nothing else of the source matters.  What happens then is what the tool does.

* **`Invoker.lookup?`** — the credential of a user for an integration.
* `credentialFor_of_none`, `credentialFor_of_some` — what a tool is given.
* `Invoker.only_invoke` — the calls of an invoked tool.
-/

namespace Blockflow

namespace Invoker

/-- The credential of a user for an integration, if there is one. -/
def lookup? (i : Invoker) (user : Option String) (integration : String) : Option Credential :=
  match i.credentials, user with
  | some source, some user =>
    match source.resolve user integration with
    | .ok found => found
    | .error _ => none
  | _, _ => none

lemma credentialFor_of_none {tool : Tool} (h : integrationOf tool = none) (i : Invoker)
    (user : Option String) : i.credentialFor tool user = .ok none := by
  rw [credentialFor, h]

/-- A tool with an integration gets what is looked up. -/
lemma credentialFor_of_some {tool : Tool} {integration : String}
    (h : integrationOf tool = some integration) (i : Invoker) (user : Option String) :
    i.credentialFor tool user =
      match i.lookup? user integration with
      | some c => .ok (some c)
      | none => .error (.credentialMissing tool.name integration) := by
  rw [credentialFor, h, lookup?.eq_def]
  cases i.credentials with
  | none => rfl
  | some source =>
      cases user with
      | none => rfl
      | some user =>
          dsimp only
          cases source.resolve user integration with
          | error _ => rfl
          | ok found => cases found <;> rfl

/-- Invoking a tool makes no calls but those of the tool. -/
lemma only_invoke {C : Call → Prop} {i : Invoker} {name : String}
    (htool : ∀ tool, i.toolbox.get? name = some tool →
      ∀ input context, (tool.run input context).Only C) (arguments : Json) (x : Invocation) :
    (i.invoke name arguments x).Only C := by
  rw [invoke]
  cases hget : i.toolbox.get? name with
  | none => exact trivial
  | some tool =>
      dsimp only
      split
      · exact trivial
      · refine Activity.Only.bind ?_ fun _ => trivial
        rw [Toolbox.execute, hget]
        refine Activity.Only.bind ((htool tool hget _ _).timeout _) fun result => ?_
        split <;> exact trivial

end Invoker

end Blockflow
