import Blockflow.Decimal.Binary

/-!
# The shortest decimal that reads back

A floating-point number is printed with as few digits as identify it: the shortest decimal in
the interval of reals that round to it, and of two of the same length the nearer one.

The search asks for one digit, then two, and so on up to seventeen.  On each decimal grid only
the two neighbours of the exact value can lie in the interval if any point does, so each length
costs two comparisons of naturals.

* `Interval` — the exact value and the reals that round to it, as naturals over a common scale.
* `decimalPlaces` — the greatest power of ten not above a ratio.
* **`Binary.shortest`** — the digits and the exponent of ten.
-/

namespace Blockflow

/-- A positive value together with the interval of reals that round to it, all as numerators
over one denominator.  The ends belong to the interval when `closed` holds. -/
structure Interval where
  low : Nat
  value : Nat
  high : Nat
  den : Nat
  closed : Bool
  deriving DecidableEq, Repr

namespace Interval

/-- Whether the rational `num / den'` lies in the interval. -/
def contains (i : Interval) (num den' : Nat) : Bool :=
  let p := num * i.den
  if i.closed then i.low * den' ≤ p && p ≤ i.high * den'
  else i.low * den' < p && p < i.high * den'

end Interval

/-- The greatest `e` with `10 ^ e ≤ num / den`, for a positive ratio.  The binary places give an
estimate that is off by at most one. -/
def decimalPlaces (num den : Nat) : Int :=
  let reaches (e : Int) : Bool := match e with
    | .ofNat k => decide (den * Nat.pow 10 k ≤ num)
    | .negSucc k => decide (den ≤ num * Nat.pow 10 (k + 1))
  let guess : Int := (FloatFormat.binaryPlaces num den * 30103).fdiv 100000
  if reaches (guess + 1) then guess + 1
  else if reaches guess then guess
  else guess - 1

/-- A decimal numeral: `digits · 10 ^ exponent`. -/
structure Decimal where
  digits : Nat
  exponent : Int
  deriving DecidableEq, Repr

namespace Decimal

/-- The numeral as a ratio of naturals. -/
def numerator (d : Decimal) : Nat := d.digits * Nat.pow 10 d.exponent.toNat

/-- The denominator that belongs to `numerator`. -/
def denominator (d : Decimal) : Nat := Nat.pow 10 (-d.exponent).toNat

/-- The number of decimal digits of the numeral. -/
def length (d : Decimal) : Nat := (Nat.toDigits 10 d.digits).length

end Decimal

/-- The better of the two neighbours of the value on the grid of multiples of `10 ^ e`, if one of
them lies in the interval. -/
def Interval.onGrid (i : Interval) (e : Int) : Option Decimal :=
  let num := i.value * Nat.pow 10 (-e).toNat
  let den := i.den * Nat.pow 10 e.toNat
  let floor := num / den
  let rest := 2 * (num % den)
  let below : Decimal := ⟨floor, e⟩
  let above : Decimal := ⟨floor + 1, e⟩
  let low := 0 < floor && i.contains below.numerator below.denominator
  let high := i.contains above.numerator above.denominator
  if low && high then
    some (if rest < den || (rest = den && floor % 2 = 0) then below else above)
  else if low then some below
  else if high then some above
  else none

/-- The first grid with a point in the interval, trying `fuel` further digits. -/
def Interval.search (i : Interval) : (fuel : Nat) → (e : Int) → Decimal
  | 0, e => (i.onGrid e).getD ⟨i.value * Nat.pow 10 (-e).toNat / (i.den * Nat.pow 10 e.toNat), e⟩
  | fuel + 1, e =>
    match i.onGrid e with
    | some d => d
    | none => i.search fuel (e - 1)

namespace Binary

variable {F : FloatFormat}

/-- The reals that round to a positive finite number: half a unit of the last place to each side,
a quarter below the first number of a binade, the ends included for an even significand. -/
def interval (x : Binary F) : Interval :=
  let m := x.significand
  let narrow := m = F.hidden && 1 < x.biased
  let up := Nat.pow 2 x.exponent.toNat
  { low := (4 * m - (if narrow then 1 else 2)) * up
    value := 4 * m * up
    high := (4 * m + 2) * up
    den := 4 * Nat.pow 2 (-x.exponent).toNat
    closed := m % 2 = 0 }

/-- **The shortest decimal that reads back as the magnitude of `x`**, for a finite nonzero
number.  Seventeen digits always suffice. -/
def shortest (x : Binary F) : Decimal :=
  let i := x.interval
  i.search 17 (decimalPlaces i.value i.den)

end Binary

end Blockflow
