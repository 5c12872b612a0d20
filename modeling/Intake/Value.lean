import Intake.Calendar.Timestamp
import Intake.Decimal.Conversion
import Intake.Raw

/-
  This file defines typed values.  They keep the distinctions
  that raw data cannot express: integers apart from doubles,
  exact decimals, days, and points in time.

  Key definitions include:
    * `Value`
    * `Value.typeName`
    * `Value.get?`
    * `Value.toBinary64?`
    * `Value.same`
-/

namespace Intake

------------------------------------------------------------
-- Typed Values
------------------------------------------------------------

/-
  A typed value.  Integers have 64 bits with sign; maps keep
  the order of their keys.
-/
inductive Value where
  | null
  | bool (b : Bool)
  | integer (k : Int) (inRange : FitsSigned k)
  | float (x : Binary64)
  | decimal (d : Decimal)
  | string (s : String)
  | date (d : Date)
  | timestamp (t : Timestamp)
  | list (items : List Value)
  | map (fields : List (String × Value))
deriving Inhabited

/- The result of a validation: every declared parameter with its value. -/
abbrev Params :=
  List (String × Value)

namespace Value

/- The integer value of a number, if 64 bits with sign can hold it. -/
def ofInt?
    (k : Int) : Option Value :=
  if h : FitsSigned k then some (.integer k h) else none

------------------------------------------------------------
-- Kinds
------------------------------------------------------------

/- The value that stands for an absent one. -/
def isNull : Value → Bool
  | .null => true
  | _ => false

/- Integers, doubles and decimals are numbers. -/
def isNumber : Value → Bool
  | .integer _ _ => true
  | .float _ => true
  | .decimal _ => true
  | _ => false

/- The name of the kind of a value, as messages use it. -/
def typeName : Value → String
  | .null => "null"
  | .bool _ => "boolean"
  | .integer _ _ => "integer"
  | .float _ => "float"
  | .decimal _ => "decimal"
  | .string _ => "string"
  | .date _ => "date"
  | .timestamp _ => "datetime"
  | .list _ => "list"
  | .map _ => "map"

------------------------------------------------------------
-- Contents
------------------------------------------------------------

/- The truth value, if it is one. -/
def toBool? : Value → Option Bool
  | .bool b => some b
  | _ => none

/- The integer, if it is one. -/
def toInt? : Value → Option Int
  | .integer k _ => some k
  | _ => none

/- A number as a double. -/
def toBinary64? : Value → Option Binary64
  | .integer k _ => some (Binary64.ofInt k)
  | .float x => some x
  | .decimal d => some d.toBinary64
  | _ => none

/- The decimal, if it is one. -/
def toDecimal? : Value → Option Decimal
  | .decimal d => some d
  | _ => none

/- The text, if it is a string. -/
def toText? : Value → Option String
  | .string s => some s
  | _ => none

/- The day, if it is one. -/
def toDate? : Value → Option Date
  | .date d => some d
  | _ => none

/- The point in time, if it is one. -/
def toTimestamp? : Value → Option Timestamp
  | .timestamp t => some t
  | _ => none

/- The items of a list. -/
def items? : Value → Option (List Value)
  | .list items => some items
  | _ => none

/- The fields of a map. -/
def fields? : Value → Option Params
  | .map fields => some fields
  | _ => none

/- The value of a key of a map. -/
def get?
    (v : Value)
    (key : String) : Option Value :=
  v.fields?.bind fun fields => Fields.lookup? fields key

------------------------------------------------------------
-- Equality
------------------------------------------------------------

mutual

/-
  Equality of values of one kind.  Doubles and decimals are
  compared by value, timestamps as points in time, and maps
  without regard to the order of their keys.
-/
def same : Value → Value → Bool
  | .null, .null => true
  | .bool a, .bool b => a == b
  | .integer a _, .integer b _ => a == b
  | .float x, .float y => x.eq y
  | .decimal a, .decimal b => a.sameValue b
  | .string a, .string b => a == b
  | .date a, .date b => a == b
  | .timestamp a, .timestamp b => a.sameInstant b
  | .list xs, .list ys => sameItems xs ys
  | .map xs, .map ys => xs.length == ys.length && subsumed xs ys
  | _, _ => false

/- Equality of lists, item by item. -/
def sameItems : List Value → List Value → Bool
  | [], [] => true
  | x :: xs, y :: ys => same x y && sameItems xs ys
  | _, _ => false

/- Every key of the first map has an equal value in the second. -/
def subsumed : List (String × Value) → List (String × Value) → Bool
  | [], _ => true
  | (key, x) :: rest, ys =>
      (match Fields.lookup? ys key with
        | some y => same x y
        | none => false) && subsumed rest ys

end

end Value

end Intake
