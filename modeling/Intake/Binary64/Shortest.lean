import Intake.Binary64

/-
  This file finds the shortest decimal that reads back as a
  given double, and the nearest one among the shortest.

  The decimals that read back as a double fill the interval
  half way to its two neighbours.  A grid of decimals with a
  fixed last place meets the interval only if one of the two
  grid points around the double does, so the coarsest grid
  with such a point gives the shortest decimal.

  Key definitions include:
    * `Binary64.Tie`
    * `Binary64.Interval`
    * `Binary64.decimalExponent`
    * `Binary64.onGrid?`
    * `Binary64.shortest`
-/

namespace Intake

namespace Binary64

------------------------------------------------------------
-- The Interval of a Double
------------------------------------------------------------

/- Which of two equally near decimals is taken. -/
inductive Tie where
  | up
  | even
deriving DecidableEq

/-
  The magnitudes that round to a double, counted in units of
  `2 ^ (-1075)`.  The ends belong to the interval if the
  significand is even.
-/
structure Interval where
  low : Nat
  middle : Nat
  high : Nat
  closed : Bool

/- The interval of magnitudes that round to `x`. -/
def interval
    (x : Binary64) : Interval :=
  let gap := twoTo (x.exponentField - 1)
  let below :=
    if x.fraction = 0 ∧ 1 < x.exponentField then gap / 2 else gap
  let middle := 2 * x.magnitude
  ⟨middle - below, middle, middle + gap, x.fraction % 2 == 0⟩

/- The unit of `Interval`, as a count of units in one. -/
def Interval.unitsPerOne : Nat :=
  twoTo 1075

/- The fraction `numerator / denominator` lies in the interval. -/
def Interval.holds
    (i : Interval)
    (numerator denominator : Nat) : Bool :=
  if i.closed then
    decide (i.low * denominator ≤ numerator) &&
      decide (numerator ≤ i.high * denominator)
  else
    decide (i.low * denominator < numerator) &&
      decide (numerator < i.high * denominator)

------------------------------------------------------------
-- Decimal Grids
------------------------------------------------------------

/- The positive exponent of ten as a factor. -/
def tenPower
    (exponent : Int) : Nat :=
  tenTo exponent.toNat

/-
  The exponent of the leading decimal digit of a positive
  fraction.  The estimate from the bit length is corrected by
  at most one.
-/
def decimalExponent
    (numerator denominator : Nat) : Int :=
  let bits : Int := (numerator.log2 : Int) - denominator.log2
  let estimate := bits * 30103 / 100000
  let reaches (e : Int) : Bool :=
    decide (denominator * tenPower e ≤ numerator * tenPower (-e))
  if reaches (estimate + 1) then estimate + 1
  else if reaches estimate then estimate
  else estimate - 1

/-
  The point of the grid of multiples of `10 ^ place` that lies
  in the interval and is nearest to its middle, if there is
  one.
-/
def onGrid?
    (tie : Tie)
    (i : Interval)
    (place : Int) : Option Nat :=
  let finer := tenPower (-place)
  let step := Interval.unitsPerOne * tenPower place
  let middle := i.middle * finer
  let below := middle / step
  let lower := i.holds (below * step) finer
  let upper := i.holds ((below + 1) * step) finer
  let twice := 2 * (middle % step)
  let roundsUp :=
    decide (step < twice) ||
      (step == twice &&
        match tie with
        | .up => true
        | .even => below % 2 == 1)
  if lower && upper then some (if roundsUp then below + 1 else below)
  else if lower then some below
  else if upper then some (below + 1)
  else none

/-
  The shortest decimal of a finite number other than zero, as
  digits and the place of the last one: the magnitude reads
  back from `digits * 10 ^ place`.  Seventeen digits always
  suffice.
-/
def shortest
    (tie : Tie)
    (x : Binary64) : Nat × Int :=
  let i := x.interval
  let leading := decimalExponent i.middle Interval.unitsPerOne
  let attempt (count : Nat) : Option (Nat × Int) :=
    let place := leading - count
    (onGrid? tie i place).map fun digits => (digits, place)
  ((List.range 17).findSome? attempt).getD (0, 0)

end Binary64

end Intake
