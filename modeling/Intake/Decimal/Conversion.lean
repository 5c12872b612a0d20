import Intake.Decimal

/-
  This file converts between decimals and doubles.  Neither
  direction is exact in general.

  A double without fraction becomes the decimal of the same
  value.  For any other double the negative binary exponent is
  traded for factors of five as far as 96 bits allow; then
  digits beyond the 28th fraction digit are dropped one at a
  time, so are fraction digits while the coefficient has more
  than 53 bits, and zeros at the end of the fraction go last.

  Key definitions include:
    * `Decimal.Scaled`
    * `Decimal.Scaled.ofBinary64`
    * `Decimal.ofBinary64?`
    * `Decimal.toBinary64`
-/

namespace Intake

namespace Decimal

------------------------------------------------------------
-- From Doubles
------------------------------------------------------------

/- An intermediate value `bits / 10 ^ places`. -/
structure Scaled where
  bits : Nat
  places : Nat

/-
  The value `bits / 2 ^ halvings`, where each halving takes an
  even number to its half, multiplies by five over ten if 96
  bits can hold the product, and else drops the lowest bit.
-/
def Scaled.ofHalvings
    (bits places : Nat) : Nat → Scaled
  | 0 => ⟨bits, places⟩
  | halvings + 1 =>
      if bits % 2 == 0 then
        ofHalvings (bits / 2) places halvings
      else if bits * 5 < twoTo 96 then
        ofHalvings (bits * 5) (places + 1) halvings
      else
        ofHalvings (bits / 2) places halvings

/-
  Drop the last digits, one at a time, while the test asks for
  it, and round a half up each time.
-/
def Scaled.dropWhile
    (test : Nat → Bool)
    (bits : Nat) : Nat → Scaled
  | 0 => ⟨bits, 0⟩
  | places + 1 =>
      if test bits then
        dropWhile test
          (bits / 10 + (if 5 ≤ bits % 10 then 1 else 0)) places
      else
        ⟨bits, places + 1⟩

/-
  Drop the fraction digits beyond the 28th.  A value whose
  last digit would be dropped is zero, without rounding.
-/
def Scaled.clip
    (bits : Nat) : Nat → Scaled
  | 0 => ⟨bits, 0⟩
  | places + 1 =>
      if 28 < places + 1 then
        if bits / 10 == 0 then ⟨0, 0⟩
        else
          clip (bits / 10 + (if 5 ≤ bits % 10 then 1 else 0)) places
      else
        ⟨bits, places + 1⟩

/- The coefficient has more bits than a double can have. -/
def exceedsDouble
    (bits : Nat) : Bool :=
  decide (twoTo 53 ≤ bits)

/- The last digit is zero. -/
def endsInZero
    (bits : Nat) : Bool :=
  bits % 10 == 0

/- The magnitude of a double after all steps. -/
def Scaled.ofBinary64
    (x : Binary64) : Scaled :=
  if 0 ≤ x.scale then
    ⟨x.significand * twoTo x.scale.toNat, 0⟩
  else
    let s := ofHalvings x.significand 0 x.scale.natAbs
    let s := clip s.bits s.places
    let s := dropWhile exceedsDouble s.bits s.places
    dropWhile endsInZero s.bits s.places

/-
  The decimal near a finite double; `none` for a magnitude of
  `2 ^ 96` or more.
-/
def ofBinary64?
    (x : Binary64) : Option Decimal :=
  if !x.isFinite || decide (twoTo 96 * Binary64.unitsPerOne ≤ x.magnitude) then
    none
  else
    let s := Scaled.ofBinary64 x
    ofParts? (if x.negative then -(s.bits : Int) else s.bits) s.places

------------------------------------------------------------
-- To Doubles
------------------------------------------------------------

/-
  The double of a decimal: whole part and fraction are rounded
  apart and added, and the sum is rounded to a multiple of the
  last digit's place.
-/
def toBinary64
    (d : Decimal) : Binary64 :=
  let power := tenTo d.scale
  let size := d.coefficient.natAbs
  let whole := Binary64.ofInt (size / power : Nat)
  let fraction :=
    (Binary64.ofInt (size % power : Nat)).div (Binary64.ofInt power)
  let magnitude :=
    if d.scale = 0 ∨ fraction.magnitude = 0 then whole
    else
      let place := Binary64.ofInt power
      (((whole.add fraction).mul place).roundToWhole).div place
  if d.coefficient < 0 then magnitude.neg else magnitude

end Decimal

end Intake
