import Intake.Calendar.Timestamp
import Intake.Raw.Writer
import Intake.Report
import Intake.Value

/-
  This file defines the coercers of the builtin types.  A
  coercer turns raw data into a typed value, or gives the
  reason why it cannot.

  Key definitions include:
    * `Coercer`
    * `Coercer.integer`
    * `Coercer.decimal`
    * `Coercer.listOf`
-/

namespace Intake

/- A rule that turns raw data into a typed value, or gives a reason. -/
abbrev Coercer :=
  Raw → Except String Value

namespace Coercer

/- A value that may be absent, with the reason for its absence. -/
def orReason
    (reason : String) : Option Value → Except String Value
  | some v => .ok v
  | none => .error reason

------------------------------------------------------------
-- Strings and Truth Values
------------------------------------------------------------

/- Strings stay as they are. -/
def string : Coercer
  | .string s => .ok (.string s)
  | _ => .error "not a string"

/- Truth values, and the words `true` and `false`. -/
def boolean : Coercer
  | .bool b => .ok (.bool b)
  | .string s =>
      if s == "true" then .ok (.bool true)
      else if s == "false" then .ok (.bool false)
      else .error "not a boolean"
  | _ => .error "not a boolean"

------------------------------------------------------------
-- Numbers
------------------------------------------------------------

/- The integer that raw data stands for, whatever its size. -/
def wholeNumber? : Raw → Option Int
  | .number (.whole k _) => some k
  | .number (.real x _) => x.toInt?
  | .string s => Text.readInteger? s
  | _ => none

/-
  Whole numbers and the texts of integers, if 64 bits with
  sign can hold them.
-/
def integer
    (raw : Raw) : Except String Value :=
  orReason "not an integer" ((wholeNumber? raw).bind Value.ofInt?)

/- Numbers and the texts of finite doubles. -/
def float : Coercer
  | .number n => .ok (.float n.toBinary64)
  | .string s =>
      match Binary64.read? s with
      | some x => if x.isFinite then .ok (.float x) else .error "not a float"
      | none => .error "not a float"
  | _ => .error "not a float"

/- The decimal that is exactly what the text of a number says. -/
def decimalOfNumber? : Raw.Number → Option Decimal
  | .whole k inRange => some (Decimal.ofWhole k inRange)
  | .real x finite =>
      Decimal.readNumeral? (Raw.Number.real x finite).write

/-
  Numbers and the texts of exact decimals.  A number is taken
  by its JSON text.
-/
def decimal : Coercer
  | .number n => orReason "not a decimal" ((decimalOfNumber? n).map .decimal)
  | .string s => orReason "not a decimal" ((Decimal.read? s).map .decimal)
  | _ => .error "not a decimal"

------------------------------------------------------------
-- Dates and Times
------------------------------------------------------------

/- The texts of days. -/
def date : Coercer
  | .string s => orReason "invalid date" ((Date.read? s).map .date)
  | _ => .error "invalid date"

/- The texts of timestamps. -/
def timestamp : Coercer
  | .string s => orReason "invalid datetime" ((Timestamp.read? s).map .timestamp)
  | _ => .error "invalid datetime"

------------------------------------------------------------
-- Lists
------------------------------------------------------------

/- An item of a list; null stays null. -/
def item
    (coerce : Coercer) : Coercer
  | .null => .ok .null
  | raw => coerce raw

/- Coerce items in order, up to the first one that fails. -/
def items
    (coerce : Coercer)
    (index : Nat) : List Raw → Except String (List Value)
  | [] => .ok []
  | raw :: rest =>
      match item coerce raw with
      | .error reason => .error (elementReason index reason)
      | .ok v =>
          match items coerce (index + 1) rest with
          | .error reason => .error reason
          | .ok vs => .ok (v :: vs)

/-
  The coercer of lists whose items have a coercer.  Null is
  kept, in place of the list and in place of an item.
-/
def listOf
    (coerce : Coercer) : Coercer
  | .null => .ok .null
  | .array raws =>
      match items coerce 0 raws with
      | .error reason => .error reason
      | .ok vs => .ok (.list vs)
  | _ => .error "not an array"

end Coercer

end Intake
