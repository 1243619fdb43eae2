/-!
# Binary floating-point numbers, exactly

A configuration file, a workflow and a provider's reply all carry decimal fractions, and the
program prints them again.  What it prints depends on every bit, so floating-point numbers are
kept here as bit patterns and every operation on them is exact arithmetic on naturals followed
by **one** rounding to the nearest representable number, ties to even.

* `FloatFormat` — the two parameters of a format; `FloatFormat.double` and `FloatFormat.single`
  are the two the program stores.
* `Binary F` — a number of the format: a sign and the remaining bits.
* **`FloatFormat.roundRatio`** — the magnitude nearest to a ratio of two naturals.
* `Binary.significand`, `Binary.exponent` — the exact value `significand · 2 ^ exponent`.
* `Binary.convert` — the same value rounded to another format.
-/

namespace Blockflow

/-- The parameters of a binary floating-point format: the bits of a significand, the leading one
included, and the bits of the exponent field. -/
structure FloatFormat where
  precision : Nat
  exponentBits : Nat
  deriving DecidableEq, Repr

namespace FloatFormat

/-- Sixty-four bit numbers. -/
def double : FloatFormat := ⟨53, 11⟩

/-- Thirty-two bit numbers. -/
def single : FloatFormat := ⟨24, 8⟩

/-- The first significand that needs no smaller exponent. -/
def hidden (F : FloatFormat) : Nat := Nat.pow 2 (F.precision - 1)

/-- The exponent of the last place of the smallest positive number. -/
def minExponent (F : FloatFormat) : Int :=
  3 - (Nat.pow 2 (F.exponentBits - 1) : Nat) - (F.precision : Int)

/-- The magnitude bits of infinity; greater magnitudes are not numbers. -/
def infinity (F : FloatFormat) : Nat := (Nat.pow 2 F.exponentBits - 1) * F.hidden

/-- A natural quotient rounded to the nearest natural, a half going to the even neighbour. -/
def nearestQuotient (num den : Nat) : Nat :=
  let floor := num / den
  let rest := 2 * (num % den)
  if rest < den then floor
  else if den < rest then floor + 1
  else floor + floor % 2

/-- The number of binary places of the quotient `num / den`: the greatest `e` with
`2 ^ e ≤ num / den`. -/
def binaryPlaces (num den : Nat) : Int :=
  let guess : Int := (num.log2 : Int) - (den.log2 : Int)
  let fits : Bool := match guess with
    | .ofNat e => decide (den * Nat.pow 2 e ≤ num)
    | .negSucc e => decide (den ≤ num * Nat.pow 2 (e + 1))
  if fits then guess else guess - 1

/-- **The magnitude nearest to `num / den`.**  The quotient is measured in units of the last
place of its binade, rounded once, and packed; a carry out of the significand moves into the
exponent field by the addition itself. -/
def roundRatio (F : FloatFormat) (num den : Nat) : Nat :=
  if num = 0 then 0
  else
    let place := max F.minExponent (binaryPlaces num den - (F.precision - 1 : Nat))
    let units := match place with
      | .ofNat e => nearestQuotient num (den * Nat.pow 2 e)
      | .negSucc e => nearestQuotient (num * Nat.pow 2 (e + 1)) den
    min F.infinity ((place - F.minExponent).toNat * F.hidden + units)

end FloatFormat

/-- A floating-point number of the format `F`: its sign and its other bits. -/
structure Binary (F : FloatFormat) where
  negative : Bool
  magnitude : Nat
  deriving DecidableEq, Repr

/-- A sixty-four bit number. -/
abbrev Double := Binary .double

/-- A thirty-two bit number. -/
abbrev Single := Binary .single

namespace Binary

variable {F : FloatFormat}

/-- Neither infinite nor undefined. -/
def isFinite (x : Binary F) : Bool := x.magnitude < F.infinity

/-- Zero of either sign. -/
def isZero (x : Binary F) : Bool := x.magnitude = 0

/-- Infinite, of either sign. -/
def isInfinite (x : Binary F) : Bool := x.magnitude = F.infinity

/-- The exponent field. -/
def biased (x : Binary F) : Nat := x.magnitude / F.hidden

/-- The integer significand of a finite number. -/
def significand (x : Binary F) : Nat :=
  if x.biased = 0 then x.magnitude else x.magnitude % F.hidden + F.hidden

/-- The exponent that belongs to `significand`: the value is `significand · 2 ^ exponent`. -/
def exponent (x : Binary F) : Int :=
  if x.biased = 0 then F.minExponent else F.minExponent + (x.biased - 1 : Nat)

/-- The numerator of the magnitude as a ratio of naturals. -/
def numerator (x : Binary F) : Nat := x.significand * Nat.pow 2 x.exponent.toNat

/-- The denominator of the magnitude as a ratio of naturals. -/
def denominator (x : Binary F) : Nat := Nat.pow 2 (-x.exponent).toNat

/-- The number nearest to a signed ratio. -/
def ofRatio (negative : Bool) (num den : Nat) : Binary F :=
  ⟨negative, F.roundRatio num den⟩

/-- The number nearest to an integer. -/
def ofInt (n : Int) : Binary F := ofRatio (n < 0) n.natAbs 1

/-- The number of opposite sign. -/
def neg (x : Binary F) : Binary F := { x with negative := !x.negative }

/-- **Conversion between formats.**  A finite value is rounded once; what is not finite keeps
its kind. -/
def convert (G : FloatFormat) (x : Binary F) : Binary G :=
  if x.isFinite then ofRatio x.negative x.numerator x.denominator
  else if x.isInfinite then ⟨x.negative, G.infinity⟩
  else ⟨x.negative, G.infinity + 1⟩

/-- The rounded product of two finite magnitudes, with the sign of the first. -/
def scaleUp (x y : Binary F) : Binary F :=
  ofRatio x.negative (x.numerator * y.numerator) (x.denominator * y.denominator)

/-- The rounded quotient of two finite magnitudes, with the sign of the first. -/
def scaleDown (x y : Binary F) : Binary F :=
  ofRatio x.negative (x.numerator * y.denominator) (x.denominator * y.numerator)

/-- Equal as numbers: the two zeros are one, and what is not a number equals nothing. -/
def same (x y : Binary F) : Bool :=
  (x = y && x.magnitude ≤ F.infinity) || (x.isZero && y.isZero)

instance : BEq (Binary F) := ⟨same⟩

/-- Strictly positive and not zero. -/
def isPositive (x : Binary F) : Bool := !x.negative && 0 < x.magnitude && x.magnitude ≤ F.infinity

end Binary

end Blockflow
