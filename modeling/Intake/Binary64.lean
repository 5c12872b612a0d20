import Intake.Power

/-
  This file defines the double precision number of IEEE 754
  by its 64 bits, together with the exact value that the bits
  stand for.

  Every finite double is a whole multiple of `2 ^ (-1074)`,
  so the exact value is kept as the integer `units`, and the
  order of finite doubles is the order of these integers.

  Key definitions include:
    * `Binary64`
    * `Binary64.isFinite`
    * `Binary64.units`
    * `Binary64.compare?`
    * `Binary64.eq`
    * `Binary64.ofFields`
-/

namespace Intake

------------------------------------------------------------
-- The Number and Its Fields
------------------------------------------------------------

/-
  A double precision number.  The top bit is the sign, the
  next eleven are the biased exponent, and the low 52 are the
  fraction.
-/
structure Binary64 where
  bits : UInt64
deriving DecidableEq, Inhabited

namespace Binary64

/- The sign bit. -/
def negative
    (x : Binary64) : Bool :=
  decide (twoTo 63 ≤ x.bits.toNat)

/- The eleven exponent bits. -/
def exponentField
    (x : Binary64) : Nat :=
  x.bits.toNat / twoTo 52 % twoTo 11

/- The 52 fraction bits. -/
def fraction
    (x : Binary64) : Nat :=
  x.bits.toNat % twoTo 52

/- A number with the given sign, exponent field and fraction. -/
def ofFields
    (negative : Bool)
    (exponent fraction : Nat) : Binary64 :=
  ⟨UInt64.ofNat
    ((if negative then twoTo 63 else 0) + exponent * twoTo 52 + fraction)⟩

/- Positive or negative zero. -/
def zero
    (negative : Bool) : Binary64 :=
  ofFields negative 0 0

/- Positive or negative infinity. -/
def infinity
    (negative : Bool) : Binary64 :=
  ofFields negative 2047 0

/- The quiet number that is not a number. -/
def nan : Binary64 :=
  ofFields false 2047 (twoTo 51)

/- The number stands for a real value. -/
def isFinite
    (x : Binary64) : Bool :=
  x.exponentField != 2047

/- The number stands for no value at all. -/
def isNaN
    (x : Binary64) : Bool :=
  x.exponentField == 2047 && x.fraction != 0

/- The same number with the other sign. -/
def neg
    (x : Binary64) : Binary64 :=
  ofFields (!x.negative) x.exponentField x.fraction

------------------------------------------------------------
-- The Exact Value
------------------------------------------------------------

/-
  The significand and the exponent of a finite number: its
  magnitude is `significand * 2 ^ scale`.  Subnormal numbers
  have no hidden bit.
-/
def significand
    (x : Binary64) : Nat :=
  if x.exponentField = 0 then x.fraction else twoTo 52 + x.fraction

/- The power of two that multiplies the significand. -/
def scale
    (x : Binary64) : Int :=
  if x.exponentField = 0 then -1074 else (x.exponentField : Int) - 1075

/- The magnitude of a finite number, counted in units of `2 ^ (-1074)`. -/
def magnitude
    (x : Binary64) : Nat :=
  x.significand * twoTo (x.exponentField - 1)

/- The value of a finite number, counted in units of `2 ^ (-1074)`. -/
def units
    (x : Binary64) : Int :=
  if x.negative then -(x.magnitude : Int) else x.magnitude

/- The number of units in one. -/
def unitsPerOne : Nat :=
  twoTo 1074

------------------------------------------------------------
-- Order
------------------------------------------------------------

/- Place of a number among negative infinity, the finite numbers and infinity. -/
def rank
    (x : Binary64) : Int :=
  if x.isFinite then 0 else if x.negative then -1 else 1

/-
  The order of two numbers by value.  A number that is not a
  number has no place in the order.
-/
def compare?
    (x y : Binary64) : Option Ordering :=
  if x.isNaN || y.isNaN then none
  else if x.isFinite && y.isFinite then some (compare x.units y.units)
  else some (compare x.rank y.rank)

/- Equality by value: the two zeros are equal, and `nan` differs from itself. -/
def eq
    (x y : Binary64) : Bool :=
  x.compare? y == some .eq

/- Strict order by value. -/
def lt
    (x y : Binary64) : Bool :=
  x.compare? y == some .lt

------------------------------------------------------------
-- Whole Values
------------------------------------------------------------

/- The whole number that a finite number is exactly equal to, if there is one. -/
def toInt?
    (x : Binary64) : Option Int :=
  if x.isFinite && x.magnitude % unitsPerOne == 0 then
    some (if x.negative then -((x.magnitude / unitsPerOne : Nat) : Int)
      else (x.magnitude / unitsPerOne : Nat))
  else
    none

end Binary64

end Intake
