import Blockflow.Settings.Basic

/-!
# Health of pooled models

Several models can stand in for each other.  A model that failed three times running is
unhealthy; it is left alone for five minutes after its last failure, and two successes without a
failure between them make it healthy again.

* `Health`, `Health.succeed`, `Health.fail`, `Health.isAvailable` — one model's record.
* `PoolHealth` — the records of all models and where the rotation of the fallbacks stands.
* **`PoolHealth.attemptOrder`** — which models to try, in which order.
-/

namespace Blockflow

/-! ## One model -/

/-- The record of one model.  Times are in milliseconds. -/
structure Health where
  healthy : Bool := true
  /-- Failures since the last success. -/
  failures : Nat := 0
  /-- Successes of an unhealthy model since its last failure. -/
  recoveries : Nat := 0
  lastFailure : Option Nat := none
  deriving DecidableEq, Repr, Inhabited

namespace Health

/-- Failures running after which a model is unhealthy. -/
def failureLimit : Nat := 3

/-- Successes running after which an unhealthy model is healthy again. -/
def recoveryGoal : Nat := 2

/-- How long an unhealthy model is left alone, in milliseconds. -/
def cooldown : Nat := 5 * 60 * 1000

/-- Whether a model may be tried. -/
def isAvailable (h : Health) (now : Nat) : Bool :=
  h.healthy ||
    match h.lastFailure with
    | none => true
    | some time => cooldown ≤ now - time

/-- The record after a success. -/
def succeed (h : Health) : Health :=
  if h.healthy then { h with failures := 0 }
  else if recoveryGoal ≤ h.recoveries + 1 then
    { h with healthy := true, failures := 0, recoveries := 0 }
  else { h with failures := 0, recoveries := h.recoveries + 1 }

/-- The record after a failure. -/
def fail (h : Health) (now : Nat) : Health :=
  { healthy := h.healthy && h.failures + 1 < failureLimit
    failures := h.failures + 1
    recoveries := 0
    lastFailure := some now }

end Health

/-! ## All models -/

/-- The records of all models, the preferred one first, and where the rotation of the others
stands. -/
structure PoolHealth where
  models : List Health := []
  cursor : Nat := 0
  deriving DecidableEq, Repr, Inhabited

namespace PoolHealth

/-- The records of models nobody has tried. -/
def fresh (count : Nat) : PoolHealth := { models := List.replicate count {} }

/-- Whether a model may be tried. -/
def isAvailable (p : PoolHealth) (now i : Nat) : Bool :=
  match p.models[i]? with
  | some h => h.isAvailable now
  | none => false

/-- The fallbacks that may be tried, from where the rotation stands. -/
def rotation (p : PoolHealth) (now : Nat) : List Nat :=
  let fallbacks := p.models.length - 1
  ((List.range fallbacks).map fun k => 1 + (p.cursor + k) % fallbacks).filter (p.isAvailable now)

/-- **Which models to try**: the preferred one if it may be tried, then the fallbacks in
rotation; the preferred one anyway if there is no other.  The next rotation starts behind the
first fallback of this one. -/
def attemptOrder (p : PoolHealth) (now : Nat) : List Nat × PoolHealth :=
  if p.models.isEmpty then ([], p)
  else
    let rotated := p.rotation now
    let order := (if p.isAvailable now 0 then [0] else []) ++ rotated
    let cursor := match rotated with
      | first :: _ => first % (p.models.length - 1)
      | [] => p.cursor
    (if order.isEmpty then [0] else order, { p with cursor })

/-- The records after an attempt. -/
def record (p : PoolHealth) (now i : Nat) (succeeded : Bool) : PoolHealth :=
  { p with models := p.models.modify i fun h => if succeeded then h.succeed else h.fail now }

/-- How many models are healthy. -/
def healthyCount (p : PoolHealth) : Nat := p.models.countP (·.healthy)

end PoolHealth

end Blockflow
