import Intake.Binary64

/-
  This file rounds exact rational values to the nearest
  double, with ties to the even significand, and builds the
  arithmetic on doubles from it: each operation is the exact
  rational result, rounded once.

  Key definitions include:
    * `roundHalfEven`
    * `Binary64.ofRatio`
    * `Binary64.ofInt`
    * `Binary64.ofScientific`
    * `Binary64.add`
    * `Binary64.mul`
    * `Binary64.div`
    * `Binary64.roundToWhole`
-/

namespace Intake

------------------------------------------------------------
-- Rounding a Quotient
------------------------------------------------------------

/- The whole number nearest to a quotient; a tie goes to the even one. -/
def roundHalfEven
    (numerator denominator : Nat) : Nat :=
  let quotient := numerator / denominator
  let twice := 2 * (numerator % denominator)
  if denominator < twice || (denominator == twice && quotient % 2 == 1) then
    quotient + 1
  else
    quotient

namespace Binary64

/-
  The exponent of the last bit of a double near a quotient.
  The estimate from the bit lengths is one too small when the
  quotient has 54 bits at that exponent.
-/
def lastBitExponent
    (numerator denominator : Nat) : Int :=
  let estimate : Int := (numerator.log2 : Int) - denominator.log2 - 53
  let scaled :=
    if 0 ≤ estimate then
      numerator / (denominator * twoTo estimate.toNat)
    else
      numerator * twoTo (-estimate).toNat / denominator
  max (-1074) (if twoTo 53 ≤ scaled then estimate + 1 else estimate)

/-
  The double nearest to `numerator / denominator`, with the
  given sign.  A significand that rounds up to `2 ^ 53` carries
  into the exponent field by itself.
-/
def ofRatio
    (negative : Bool)
    (numerator denominator : Nat) : Binary64 :=
  if numerator = 0 then zero negative
  else
    let q := lastBitExponent numerator denominator
    let significand :=
      if 0 ≤ q then
        roundHalfEven numerator (denominator * twoTo q.toNat)
      else
        roundHalfEven (numerator * twoTo (-q).toNat) denominator
    let field := (q + 1074).toNat
    if 2046 ≤ field || (field == 2045 && twoTo 53 ≤ significand) then
      infinity negative
    else
      ofFields negative field significand

/- The double nearest to an integer. -/
def ofInt
    (k : Int) : Binary64 :=
  ofRatio (k < 0) k.natAbs 1

/-
  The double nearest to `digits * 10 ^ exponent`.  A value
  outside the range of doubles by many orders of magnitude is
  decided by its size alone.
-/
def ofScientific
    (negative : Bool)
    (digits : Nat)
    (exponent : Int) : Binary64 :=
  let size := exponent + (digits.log2 : Int) * 30103 / 100000
  if digits = 0 then zero negative
  else if 400 < size then infinity negative
  else if size < -400 then zero negative
  else if 0 ≤ exponent then
    ofRatio negative (digits * tenTo exponent.toNat) 1
  else
    ofRatio negative digits (tenTo (-exponent).toNat)

------------------------------------------------------------
-- Arithmetic on Finite Numbers
------------------------------------------------------------

/- Sum of two finite numbers. -/
def add
    (x y : Binary64) : Binary64 :=
  let sum := x.units + y.units
  ofRatio (sum < 0 || (sum == 0 && x.negative && y.negative))
    sum.natAbs unitsPerOne

/- Product of two finite numbers. -/
def mul
    (x y : Binary64) : Binary64 :=
  ofRatio (x.negative != y.negative)
    (x.magnitude * y.magnitude) (unitsPerOne * unitsPerOne)

/- Quotient of a finite number by a finite number other than zero. -/
def div
    (x y : Binary64) : Binary64 :=
  ofRatio (x.negative != y.negative) x.magnitude y.magnitude

/- The nearest whole number; a half goes away from zero. -/
def roundToWhole
    (x : Binary64) : Binary64 :=
  if x.isFinite then
    ofRatio x.negative
      ((2 * x.magnitude + unitsPerOne) / (2 * unitsPerOne)) 1
  else
    x

end Binary64

end Intake
