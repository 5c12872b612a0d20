import Intake.Binary64.Rounding
import Intake.Fields

/-
  This file defines raw request data: the untyped tree that a
  JSON text stands for.  Objects keep the order of their keys,
  and whole numbers are kept apart from fractional ones.

  Key definitions include:
    * `Raw.Number`
    * `Raw.Number.ofInt?`
    * `Raw.Number.toBinary64`
    * `Raw`
    * `Raw.mergeKeys`
-/

namespace Intake

------------------------------------------------------------
-- Numbers
------------------------------------------------------------

/-
  A JSON number is a whole number of 64 bits, signed or
  unsigned, or a finite double.  A double with a whole value
  stays a double.
-/
inductive Raw.Number where
  | whole (k : Int) (inRange : FitsNumber k)
  | real (x : Binary64) (finite : x.isFinite = true)
deriving DecidableEq

namespace Raw.Number

/- The number of a double, unless the double is not finite. -/
def ofBinary64?
    (x : Binary64) : Option Raw.Number :=
  if h : x.isFinite = true then some (.real x h) else none

/-
  The number of an integer.  One that 64 bits cannot hold is
  rounded to a double, which fails only beyond the range of
  doubles.
-/
def ofInt?
    (k : Int) : Option Raw.Number :=
  if h : FitsNumber k then some (.whole k h)
  else ofBinary64? (Binary64.ofInt k)

/- The double nearest to a number. -/
def toBinary64 : Raw.Number → Binary64
  | .whole k _ => Binary64.ofInt k
  | .real x _ => x

/- The signed 64-bit integer that a whole number is, if it fits. -/
def toSigned? : Raw.Number → Option Int
  | .whole k _ => if FitsSigned k then some k else none
  | .real _ _ => none

end Raw.Number

------------------------------------------------------------
-- Trees
------------------------------------------------------------

/- Untyped request data. -/
inductive Raw where
  | null
  | bool (b : Bool)
  | number (n : Raw.Number)
  | string (s : String)
  | array (items : List Raw)
  | object (fields : List (String × Raw))
deriving Inhabited

namespace Raw

/- The null of raw data. -/
def isNull : Raw → Bool
  | .null => true
  | _ => false

mutual

/- A tree with each key of an object once: first place, last value. -/
def mergeKeys : Raw → Raw
  | .array items => .array (mergeItemKeys items)
  | .object fields => .object (Fields.merge (mergeFieldKeys fields))
  | leaf => leaf

/- Merge the keys inside each item of an array. -/
def mergeItemKeys : List Raw → List Raw
  | [] => []
  | item :: rest => mergeKeys item :: mergeItemKeys rest

/- Merge the keys inside the value of each field. -/
def mergeFieldKeys : List (String × Raw) → List (String × Raw)
  | [] => []
  | (key, value) :: rest => (key, mergeKeys value) :: mergeFieldKeys rest

end

end Raw

end Intake
