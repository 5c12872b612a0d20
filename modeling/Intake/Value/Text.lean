import Intake.Value

/-
  This file writes typed values for a reader: texts stand
  without quotes, and doubles never have an exponent.

  Key definitions include:
    * `Value.write`
-/

namespace Intake

namespace Value

/- Text between braces. -/
def braced
    (content : String) : String :=
  "\x7b" ++ content ++ "\x7d"

mutual

/- The text of a value for a reader. -/
def write : Value → String
  | .null => "null"
  | .bool true => "true"
  | .bool false => "false"
  | .integer k _ => toString k
  | .float x => x.write .plain
  | .decimal d => d.write
  | .string s => s
  | .date d => d.write
  | .timestamp t => t.write
  | .list items => "[" ++ ", ".intercalate (writeItems items) ++ "]"
  | .map fields => braced (", ".intercalate (writeFields fields))

/- The texts of the items of a list. -/
def writeItems : List Value → List String
  | [] => []
  | item :: rest => write item :: writeItems rest

/- The texts of the fields of a map. -/
def writeFields : List (String × Value) → List String
  | [] => []
  | (key, value) :: rest => (key ++ ": " ++ write value) :: writeFields rest

end

end Value

end Intake
