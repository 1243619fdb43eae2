import Blockflow.Decimal.Shortest
import Blockflow.Table

/-!
# JSON values

Inputs, outputs, tool arguments and configuration fragments are JSON values.  A number is an
integer when it was written as one and fits sixty-four bits, and a floating-point number
otherwise; an object lists its members in key order.

* `Json`, `Json.Number` — the values.
* `Json.same` — equality of values, in which the two zeros are one number.
* `Json.asText?`, `Json.asObject?`, … — views of one kind of value.
* `Json.depth` — how deeply arrays and objects nest.
-/

namespace Blockflow

/-- A JSON number. -/
inductive Json.Number where
  | int (value : Int)
  | float (value : Double)
  deriving DecidableEq, Repr

/-- A JSON value. -/
inductive Json where
  | null
  | bool (value : Bool)
  | number (value : Json.Number)
  | text (value : String)
  | array (items : List Json)
  | object (members : List (String × Json))
  deriving Repr, Inhabited

namespace Json

/-- An object's members: a table of values. -/
abbrev Object := Table Json

/-- An integer as a value. -/
def int (n : Int) : Json := .number (.int n)

/-- A natural as a value. -/
def nat (n : Nat) : Json := .number (.int n)

/-- A floating-point number as a value; what is not finite has no JSON form and becomes null. -/
def float (x : Double) : Json := if x.isFinite then .number (.float x) else .null

/-! ## Views -/

/-- The text of a text value. -/
def asText? : Json → Option String
  | .text s => some s
  | _ => none

/-- The members of an object. -/
def asObject? : Json → Option Object
  | .object ms => some ms
  | _ => none

/-- The items of an array. -/
def asArray? : Json → Option (List Json)
  | .array xs => some xs
  | _ => none

/-- The truth value of a boolean. -/
def asBool? : Json → Option Bool
  | .bool b => some b
  | _ => none

/-- The integer of an integer number. -/
def asInt? : Json → Option Int
  | .number (.int n) => some n
  | _ => none

/-- The natural of a non-negative integer number. -/
def asNat? : Json → Option Nat
  | .number (.int (.ofNat n)) => some n
  | _ => none

/-- Whether the value is null. -/
def isNull : Json → Bool
  | .null => true
  | _ => false

/-- The member of an object under a key. -/
def get? (v : Json) (key : String) : Option Json :=
  v.asObject?.bind fun ms => Table.get? ms key

/-! ## Equality -/

/-- Equal numbers: of the same form and the same value, the two zeros being one. -/
def Number.same : Number → Number → Bool
  | .int a, .int b => a = b
  | .float a, .float b => a.same b
  | _, _ => false

mutual

/-- Equal values: the same shape, keys, texts and truth values, and equal numbers. -/
def same : Json → Json → Bool
  | .null, .null => true
  | .bool a, .bool b => a = b
  | .number a, .number b => a.same b
  | .text a, .text b => a = b
  | .array xs, .array ys => sameItems xs ys
  | .object xs, .object ys => sameMembers xs ys
  | _, _ => false

/-- Equal lists of values. -/
def sameItems : List Json → List Json → Bool
  | [], [] => true
  | x :: xs, y :: ys => same x y && sameItems xs ys
  | _, _ => false

/-- Equal lists of members. -/
def sameMembers : List (String × Json) → List (String × Json) → Bool
  | [], [] => true
  | (k, x) :: xs, (l, y) :: ys => k = l && same x y && sameMembers xs ys
  | _, _ => false

end

instance : BEq Json := ⟨same⟩

/-! ## Depth -/

mutual

/-- How deeply arrays and objects nest: zero for a value that is neither. -/
def depth : Json → Nat
  | .array xs => depthItems xs + 1
  | .object ms => depthMembers ms + 1
  | _ => 0

/-- The greatest depth among the items. -/
def depthItems : List Json → Nat
  | [] => 0
  | x :: xs => max (depth x) (depthItems xs)

/-- The greatest depth among the members. -/
def depthMembers : List (String × Json) → Nat
  | [] => 0
  | (_, x) :: xs => max (depth x) (depthMembers xs)

end

end Json

end Blockflow
