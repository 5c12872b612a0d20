import Intake.Decimal.Conversion
import Intake.Value

/-
  This file defines the quantity that a numeric value stands
  for when it is compared.  Integers and decimals are exact.
  A double is taken as the decimal near to it, or as itself
  if it is beyond the range of decimals.

  Key definitions include:
    * `Quantity`
    * `Quantity.ofValue?`
    * `Quantity.compare?`
    * `Value.sameQuantity`
-/

namespace Intake

/- A number that is to be compared. -/
inductive Quantity where
  | exact (d : Decimal)
  | approximate (x : Binary64)

namespace Quantity

/- The quantity of a numeric value. -/
def ofValue? : Value → Option Quantity
  | .integer k inRange =>
      some (.exact (Decimal.ofWhole k ⟨inRange.1, by omega⟩))
  | .decimal d => some (.exact d)
  | .float x =>
      match Decimal.ofBinary64? x with
      | some d => some (.exact d)
      | none => some (.approximate x)
  | _ => none

/- A quantity as a double. -/
def toBinary64 : Quantity → Binary64
  | .exact d => d.toBinary64
  | .approximate x => x

/-
  The order of two quantities: by value if both are exact,
  and else as doubles.
-/
def compare? : Quantity → Quantity → Option Ordering
  | .exact a, .exact b => some (a.compare b)
  | a, b => a.toBinary64.compare? b.toBinary64

end Quantity

/-
  Equality of values in which numbers of different kinds are
  compared as quantities.
-/
def Value.sameQuantity
    (v w : Value) : Bool :=
  match Quantity.ofValue? v, Quantity.ofValue? w with
  | some a, some b => a.compare? b == some .eq
  | _, _ => v.same w

end Intake
