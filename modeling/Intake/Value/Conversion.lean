import Intake.Value

/-
  This file converts between typed values and raw data without
  any coercion.

  Key definitions include:
    * `Value.ofRaw`
    * `Value.toRaw`
-/

namespace Intake

namespace Value

------------------------------------------------------------
-- From Raw Data
------------------------------------------------------------

/-
  The value of a number: an integer if 64 bits with sign can
  hold a whole number, and else a double.
-/
def ofNumber : Raw.Number → Value
  | .whole k _ =>
      if h : FitsSigned k then .integer k h
      else .float (Binary64.ofInt k)
  | .real x _ => .float x

mutual

/- The value with the structure of raw data. -/
def ofRaw : Raw → Value
  | .null => .null
  | .bool b => .bool b
  | .number n => ofNumber n
  | .string s => .string s
  | .array items => .list (ofRawItems items)
  | .object fields => .map (ofRawFields fields)

/- The values of the items of an array. -/
def ofRawItems : List Raw → List Value
  | [] => []
  | item :: rest => ofRaw item :: ofRawItems rest

/- The values of the fields of an object. -/
def ofRawFields : List (String × Raw) → List (String × Value)
  | [] => []
  | (key, value) :: rest => (key, ofRaw value) :: ofRawFields rest

end

------------------------------------------------------------
-- To Raw Data
------------------------------------------------------------

/- The raw number of a double; a double that is not finite is null. -/
def floatToRaw
    (x : Binary64) : Raw :=
  match Raw.Number.ofBinary64? x with
  | some n => .number n
  | none => .null

mutual

/-
  A value as raw data.  Decimals, days and timestamps become
  strings, so that nothing of them is lost.
-/
def toRaw : Value → Raw
  | .null => .null
  | .bool b => .bool b
  | .integer k h => .number (.whole k ⟨h.1, by omega⟩)
  | .float x => floatToRaw x
  | .decimal d => .string d.write
  | .string s => .string s
  | .date d => .string d.write
  | .timestamp t => .string t.writeShort
  | .list items => .array (itemsToRaw items)
  | .map fields => .object (fieldsToRaw fields)

/- The items of a list as raw data. -/
def itemsToRaw : List Value → List Raw
  | [] => []
  | item :: rest => toRaw item :: itemsToRaw rest

/- The fields of a map as raw data. -/
def fieldsToRaw : List (String × Value) → List (String × Raw)
  | [] => []
  | (key, value) :: rest => (key, toRaw value) :: fieldsToRaw rest

end

end Value

end Intake
