import Blockflow.Activity
import Mathlib.Tactic.Common

/-!
# Activities that look alike

Two activities look alike when nobody outside can tell them apart: they make the same calls in the
same order, ask models the same, and come to the same value.  Two things are left open.  A noted
use of a tool shows the tool and its arguments but not for whom the tool works, and what a tool
exchanges with a service is between the two of them.

What services answer may differ as well, as far as a relation allows; then activities are alike if
they go on alike on answers that are so related.

* **`Activity.Congruence`** — relations that are kept by sequence and by time limits.  Equality is
  one (`congruence_eq`).
* `ToolContext.Alike`, `Call.Alike`, `Call.AnswersAlike` — what is seen of a call and an answer.
* **`Activity.Alike`** — the relation, a congruence (`congruence_alike`); every activity looks like
  itself if equal requests have equal outcomes (`Alike.refl`).
-/

namespace Blockflow

/-! ## Congruences -/

namespace Activity

/-- **A relation that holds of activities put together from related parts.** -/
structure Congruence (R : {α : Type} → Activity α → Activity α → Prop) : Prop where
  done {α : Type} (a : α) : R (.done a) (.done a)
  bind {α β : Type} {p p' : Activity α} {q q' : α → Activity β} (first : R p p')
    (rest : ∀ a, R (q a) (q' a)) : R (p.bind q) (p'.bind q')
  timeout {α : Type} {p p' : Activity α} (ms : Nat) (h : R p p') :
    R (p.timeout ms) (p'.timeout ms)

lemma congruence_eq : Congruence fun p p' => p = p' where
  done _ := rfl
  bind first rest := by rw [first, funext rest]
  timeout ms h := by rw [h]

end Activity

/-! ## Calls -/

/-- Contexts that show the same: the place, and whether there is a user and a credential. -/
structure ToolContext.Alike (x x' : ToolContext) : Prop where
  executionId : x.executionId = x'.executionId
  blockId : x.blockId = x'.blockId
  user : x.userId.isSome = x'.userId.isSome
  credential : x.credential.isSome = x'.credential.isSome

/-- How outcomes of two exchanges correspond. -/
abbrev Correspondence := Http.Request → Http.Request → Http.Outcome → Http.Outcome → Prop

/-- The correspondence under which services answer the same, whatever they are sent. -/
def Correspondence.equal : Correspondence := fun _ _ outcome outcome' => outcome = outcome'

/-- Whether equal requests have equal outcomes. -/
def Correspondence.Functional (same : Correspondence) : Prop :=
  ∀ request outcome outcome', same request request outcome outcome' → outcome = outcome'

lemma Correspondence.functional_equal : Correspondence.equal.Functional := fun _ _ _ h => h

namespace Call

/-- **Calls that show the same.** -/
inductive Alike : Call → Call → Prop
  | refl (c : Call) : Alike c c
  | note {use use' : ToolUse} (tool : use.tool = use'.tool) (input : use.input = use'.input)
    (context : use.context.Alike use'.context) : Alike (.note use) (.note use')
  | exchange (request request' : Http.Request) : Alike (.exchange request) (.exchange request')

/-- Answers that show the same: corresponding outcomes of exchanges, else the same answer. -/
def AnswersAlike (same : Correspondence) : (c c' : Call) → c.Answer → c'.Answer → Prop
  | .exchange request, .exchange request', outcome, outcome' =>
    same request request' outcome outcome'
  | _, _, a, a' => HEq a a'

lemma AnswersAlike.eq {same : Correspondence} (hsame : same.Functional) {c : Call}
    {a a' : c.Answer} (h : AnswersAlike same c c a a') : a = a' := by
  cases c with
  | exchange request => exact hsame request a a' h
  | wait _ | ask _ _ | note _ | attempts | report _ _ => exact eq_of_heq h

end Call

/-! ## Activities -/

namespace Activity

variable {α β : Type} {same : Correspondence}

/-- **Activities that look alike.** -/
inductive Alike (same : Correspondence) {α : Type} : Activity α → Activity α → Prop
  | done (a : α) : Alike same (.done a) (.done a)
  | ask {c c' : Call} {next : Nat → c.Answer → Activity α} {next' : Nat → c'.Answer → Activity α}
    (call : c.Alike c')
    (step : ∀ t a a', Call.AnswersAlike same c c' a a' → Alike same (next t a) (next' t a')) :
    Alike same (.ask c next) (.ask c' next')
  | askWithin {c c' : Call} {ms : Nat} {late late' : Activity α}
    {next : Nat → c.Answer → Activity α} {next' : Nat → c'.Answer → Activity α}
    (call : c.Alike c') (tired : Alike same late late')
    (step : ∀ t a a', Call.AnswersAlike same c c' a a' → Alike same (next t a) (next' t a')) :
    Alike same (.askWithin c ms late next) (.askWithin c' ms late' next')

namespace Alike

/-- **An activity looks like itself**, where equal requests have equal outcomes. -/
lemma refl (hsame : same.Functional) (p : Activity α) : Alike same p p := by
  induction p with
  | done a => exact .done a
  | ask c next ih =>
      refine .ask (.refl c) fun t a a' h => ?_
      rw [h.eq hsame]
      exact ih t a'
  | askWithin c ms late next ihLate ih =>
      refine .askWithin (.refl c) ihLate fun t a a' h => ?_
      rw [h.eq hsame]
      exact ih t a'

lemma bind {p p' : Activity α} {q q' : α → Activity β} (first : Alike same p p')
    (rest : ∀ a, Alike same (q a) (q' a)) : Alike same (p.bind q) (p'.bind q') := by
  induction first with
  | done a => exact rest a
  | ask call _ ih => exact .ask call ih
  | askWithin call _ _ ihTired ih => exact .askWithin call ihTired ih

lemma timeout {p p' : Activity α} (h : Alike same p p') :
    ∀ ms, Alike same (p.timeout ms) (p'.timeout ms) := by
  induction h with
  | done a => exact fun ms => .done (some a)
  | ask call _ ih => exact fun ms => .askWithin call (.done none) fun t a a' h => ih t a a' h _
  | @askWithin c c' inner _ _ _ _ call _ _ ihTired ih =>
      intro ms
      rw [Activity.timeout, Activity.timeout]
      split_ifs
      · exact .askWithin call (ihTired _) fun t a a' h => ih t a a' h _
      · exact .askWithin call (.done none) fun t a a' h => ih t a a' h _

end Alike

lemma congruence_alike (same : Correspondence) : Congruence (Alike same) where
  done := .done
  bind := .bind
  timeout ms h := h.timeout ms

end Activity

end Blockflow
