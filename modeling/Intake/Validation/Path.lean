import Intake.Report

/-
  This file says how the failures of parameters become records
  with paths.

  A path joins the names of nested parameters by points; the
  place in an array stands in brackets after the name of the
  parameter.

  Key definitions include:
    * `Path.below`
    * `Path.atElement`
    * `Failure.records`
-/

namespace Intake

------------------------------------------------------------
-- Paths
------------------------------------------------------------

namespace Path

/- The place of an element of an array. -/
def element
    (index : Nat) : String :=
  "[" ++ toString index ++ "]"

/- A path that starts with the place of an element. -/
def startsAtElement
    (path : String) : Bool :=
  path.toList.head? == some '['

/-
  The path below a parameter.  The place of an element follows
  the name without a point.
-/
def below
    (parent : String) : Option String → String
  | none => parent
  | some child =>
      if startsAtElement child then parent ++ child
      else parent ++ "." ++ child

/- The path below an element of an array. -/
def belowElement
    (index : Nat) : Option String → String
  | none => element index
  | some child => element index ++ "." ++ child

end Path

------------------------------------------------------------
-- Records
------------------------------------------------------------

/- The record moved to a path that depends on its own. -/
def ErrorRecord.move
    (place : Option String → String)
    (record : ErrorRecord) : ErrorRecord :=
  { record with param := some (place record.param) }

/- The records of the failure of a parameter. -/
def Failure.records
    (param : String) : Failure → List ErrorRecord
  | .coercion reason => [.atParam param reason]
  | .validation reason => [.atParam param reason]
  | .overall reasons => reasons.map .overall
  | .nested records => records.map (.move (Path.below param))

end Intake
